import PromptGraph.Catalog.Document
import PromptGraph.Graph.Compile
import PromptGraph.TextToImage.Flags

/-!
The text-to-image workflow: seven nodes, from loading a checkpoint to saving an image.
-/

namespace PromptGraph.TextToImage

def textArg (s : String) : Arg := .literal (.ofString s)

/-- Adds a node of a definition, and stops at an error. -/
def place (g : Graph) (d : NodeDefinition) (label : String) (args : List (String × Arg)) :
    Except BuildError (NodeHandle × Graph) :=
  match g.addNode d (Std.ExtTreeMap.ofList args) (some label) with
  | (.ok handle, g) => .ok (handle, g)
  | (.error e, _) => .error e

/-- The graph of the workflow, with the definitions that a catalog has for its nodes. -/
def workflow (catalog : Catalog) (flags : Flags) : Except BuildError Graph := do
  let g := Graph.empty {}
  let d ← catalog.node "CheckpointLoaderSimple"
  let (loader, g) ← place g d "ckpt" [("ckpt_name", textArg flags.checkpoint)]
  let encode ← catalog.node "CLIPTextEncode"
  let clip ← loader.out "clip"
  let (positive, g) ← place g encode "positive"
    [("text", textArg flags.prompt), ("clip", .connection clip)]
  let (negative, g) ← place g encode "negative"
    [("text", textArg flags.negative), ("clip", .connection clip)]
  let d ← catalog.node "EmptyLatentImage"
  let (latent, g) ← place g d "latent"
    [("width", .literal (.ofUInt32 flags.width)), ("height", .literal (.ofUInt32 flags.height)),
      ("batch_size", .literal (.ofUInt32 1))]
  let d ← catalog.node "KSampler"
  let model ← loader.out "model"
  let wanted ← positive.out "conditioning"
  let unwanted ← negative.out "conditioning"
  let image ← latent.out "latent"
  let (sampled, g) ← place g d "ksampler"
    [("model", .connection model), ("positive", .connection wanted),
      ("negative", .connection unwanted), ("latent_image", .connection image),
      ("seed", .literal (.ofUInt64 flags.seed)), ("steps", .literal (.ofUInt32 flags.steps)),
      ("cfg", .literal (.ofDouble flags.cfg)), ("sampler_name", textArg flags.sampler),
      ("scheduler", textArg flags.scheduler), ("denoise", .literal (.ofDouble (.ofInt 1)))]
  let d ← catalog.node "VAEDecode"
  let samples ← sampled.out "latent"
  let vae ← loader.out "vae"
  let (decoded, g) ← place g d "decode" [("samples", .connection samples), ("vae", .connection vae)]
  let d ← catalog.node "SaveImage"
  let images ← decoded.out "image"
  let (_, g) ← place g d "save"
    [("images", .connection images), ("filename_prefix", textArg flags.savePrefix)]
  return g

/-- A required input. -/
def input (name : String) : String × InputSpec := (name, InputSpec.scalar.mandatory)

def inputWith (name : String) (value : Literal) : String × InputSpec :=
  (name, InputSpec.scalar.mandatory.withDefault value)

def inputAmong (name : String) (choices : List String) : String × InputSpec :=
  (name, InputSpec.scalar.mandatory.withChoices (choices.map .ofString))

def inputFrom (name kind : String) : String × InputSpec :=
  (name, (InputSpec.connection ⟨kind⟩).mandatory)

def output (name kind : String) (index : UInt32) : String × OutputSpec := (name, ⟨⟨kind⟩, index⟩)

/-- The definitions of the nodes of the workflow, for use without a catalog of one's own. -/
def builtinDefinitions : Except DefinitionError (List NodeDefinition) := do
  return [
    ← NodeDefinition.build "CheckpointLoaderSimple" [input "ckpt_name"]
      [output "model" "MODEL" 0, output "clip" "CLIP" 1, output "vae" "VAE" 2],
    ← NodeDefinition.build "CLIPTextEncode" [input "text", inputFrom "clip" "CLIP"]
      [output "conditioning" "CONDITIONING" 0],
    ← NodeDefinition.build "EmptyLatentImage"
      [inputWith "width" (.ofUInt32 512), inputWith "height" (.ofUInt32 512),
        inputWith "batch_size" (.ofUInt32 1)]
      [output "latent" "LATENT" 0],
    ← NodeDefinition.build "KSampler"
      [inputFrom "model" "MODEL", inputWith "seed" (.ofUInt32 0),
        inputWith "steps" (.ofUInt32 20), inputWith "cfg" (.ofDouble (.ofInt 8)),
        inputAmong "sampler_name" ["euler", "euler_ancestral", "dpmpp_2m", "ddim"],
        inputAmong "scheduler" ["normal", "karras", "exponential", "simple"],
        inputFrom "positive" "CONDITIONING", inputFrom "negative" "CONDITIONING",
        inputFrom "latent_image" "LATENT", inputWith "denoise" (.ofDouble (.ofInt 1))]
      [output "latent" "LATENT" 0],
    ← NodeDefinition.build "VAEDecode" [inputFrom "samples" "LATENT", inputFrom "vae" "VAE"]
      [output "image" "IMAGE" 0],
    ← NodeDefinition.build "SaveImage"
      [inputFrom "images" "IMAGE", inputWith "filename_prefix" (.ofString "ComfyUI")] []]

def builtinCatalog : Except DefinitionError Catalog := do
  (← builtinDefinitions).foldlM (fun c d => c.extended (.node d)) .empty

end PromptGraph.TextToImage
