import PromptGraph.Binary.Decimal
import PromptGraph.Definition.Clash

/-!
The command line of the text-to-image tool.

A flag takes its value after an equals sign or from the next word, which must not look like a flag.
No flag may be given twice. Two flags fall back on the environment, the others on fixed values.
-/

namespace PromptGraph.TextToImage

/-- The flags that take a value. -/
inductive ValueFlag where
  | prompt
  | negative
  | steps
  | cfg
  | seed
  | checkpoint
  | sampler
  | scheduler
  | width
  | height
  | savePrefix
  | catalog
  | output
  | clientId
deriving DecidableEq, Repr

/-- The flags that take none. -/
inductive Switch where
  | request
  | showGraph
deriving DecidableEq, Repr

inductive Flag where
  | value (flag : ValueFlag)
  | switch (flag : Switch)
deriving DecidableEq, Repr

def Flag.names : List (String × Flag) :=
  [("prompt", .value .prompt), ("negative", .value .negative), ("steps", .value .steps),
    ("cfg", .value .cfg), ("seed", .value .seed), ("ckpt", .value .checkpoint),
    ("sampler", .value .sampler), ("scheduler", .value .scheduler), ("width", .value .width),
    ("height", .value .height), ("prefix", .value .savePrefix), ("catalog", .value .catalog),
    ("output", .value .output), ("client-id", .value .clientId), ("request", .switch .request),
    ("show-graph", .switch .showGraph)]

/-- What is wrong with a command line. -/
inductive UsageError where
  | unexpectedWord (word : String)
  | missingValue (flag : ValueFlag)
  | unexpectedValue (flag : Switch)
  | repeated (flag : Flag)
  | invalidValue (flag : ValueFlag) (text : String)
  | clientIdWithoutRequest
deriving DecidableEq

/-- A flag as it is typed. -/
def Flag.text (flag : Flag) : String :=
  match Flag.names.find? (·.2 == flag) with
  | some (name, _) => "--" ++ name
  | none => "--"

def UsageError.message : UsageError → String
  | .unexpectedWord word => s!"unexpected argument '{word}'"
  | .missingValue flag => s!"{(Flag.value flag).text} needs a value"
  | .unexpectedValue flag => s!"{(Flag.switch flag).text} takes no value"
  | .repeated flag => s!"{flag.text} is given more than once"
  | .invalidValue flag text => s!"'{text}' is no value for {(Flag.value flag).text}"
  | .clientIdWithoutRequest => "--client-id needs --request"

/-- A flag as set by a command line. -/
inductive Setting where
  | value (flag : ValueFlag) (text : String)
  | switch (flag : Switch)
deriving DecidableEq

def Setting.flag : Setting → Flag
  | .value flag _ => .value flag
  | .switch flag => .switch flag

/-- What a word of a command line is. -/
inductive Word where
  | setting (setting : Setting)
  | awaiting (flag : ValueFlag)
  | terminator
deriving DecidableEq

/-- A flag by its long name, with what follows the equals sign. -/
def longWord (word : String) (name : List Char) (value : Option (List Char)) :
    Except UsageError Word :=
  match Flag.names.lookup (String.ofList name), value with
  | some (.value flag), some text => .ok (.setting (.value flag (String.ofList text)))
  | some (.value flag), none => .ok (.awaiting flag)
  | some (.switch flag), none => .ok (.setting (.switch flag))
  | some (.switch flag), some _ => .error (.unexpectedValue flag)
  | none, _ => .error (.unexpectedWord word)

def classify (word : String) : Except UsageError Word :=
  match word.toList with
  | ['-', '-'] => .ok .terminator
  | '-' :: '-' :: cs =>
    let name := cs.takeWhile (· != '=')
    match cs.dropWhile (· != '=') with
    | [] => longWord word name none
    | _ :: value => longWord word name (some value)
  | ['-', 'o'] => .ok (.awaiting .output)
  | '-' :: 'o' :: '=' :: value => .ok (.setting (.value .output (String.ofList value)))
  | '-' :: 'o' :: value => .ok (.setting (.value .output (String.ofList value)))
  | _ => .error (.unexpectedWord word)

/-- The word is no value when it stands by itself: it starts with a dash and goes on. -/
def looksLikeFlag (word : String) : Bool :=
  match word.toList with
  | '-' :: _ :: _ => true
  | _ => false

/-- The settings of a command line, in order. After the terminator nothing may follow. -/
def settings : List String → Except UsageError (List Setting)
  | [] => .ok []
  | word :: words =>
    match classify word with
    | .error e => .error e
    | .ok .terminator =>
      match words with
      | [] => .ok []
      | next :: _ => .error (.unexpectedWord next)
    | .ok (.setting s) => (settings words).map (s :: ·)
    | .ok (.awaiting flag) =>
      match words with
      | [] => .error (.missingValue flag)
      | value :: words =>
        if looksLikeFlag value then .error (.missingValue flag)
        else (settings words).map (.value flag value :: ·)

structure Flags where
  prompt : String
  negative : String
  steps : UInt32
  cfg : Double
  seed : UInt64
  checkpoint : String
  sampler : String
  scheduler : String
  width : UInt32
  height : UInt32
  savePrefix : String
  catalog : Option String
  output : Option String
  request : Bool
  clientId : Option String
  showGraph : Bool

/-- The text that a flag is set to. -/
def valueOf (settings : List Setting) (flag : ValueFlag) : Option String :=
  settings.findSome? fun
    | .value f text => if f = flag then some text else none
    | .switch _ => none

/-- The value of a flag as `read` reads it, or a fixed one. -/
def readValue {α : Type} (settings : List Setting) (flag : ValueFlag) (read : String → Option α)
    (fallback : α) : Except UsageError α :=
  match valueOf settings flag with
  | none => .ok fallback
  | some text =>
    match read text with
    | some x => .ok x
    | none => .error (.invalidValue flag text)

/-- A number of 32 bits, which may have a sign. -/
def readUInt32? (text : String) : Option UInt32 :=
  match Digits.readSigned? text with
  | some n => if 0 ≤ n && n.toNat < UInt32.size then some (UInt32.ofNat n.toNat) else none
  | none => none

def readUInt64? (text : String) : Option UInt64 :=
  (Digits.readUpTo? (UInt64.size - 1) text).map UInt64.ofNat

/-- The flags of a command line, given the variables of the environment. -/
def Flags.parse (environment : String → Option String) (words : List String) :
    Except UsageError Flags := do
  let set ← settings words
  if let some (_, again) := clash? Setting.flag set then
    throw (.repeated again.flag)
  let text := fun flag fallback => (valueOf set flag).getD fallback
  let request := set.contains (.switch .request)
  let clientId := valueOf set .clientId
  if clientId.isSome && !request then
    throw .clientIdWithoutRequest
  return {
    prompt := text .prompt "a scenic landscape, best quality"
    negative := text .negative "lowres, blurry"
    steps := ← readValue set .steps readUInt32? 20
    cfg := ← readValue set .cfg Double.read? (.ofInt 7)
    seed := ← readValue set .seed readUInt64? 0
    checkpoint := text .checkpoint ((environment "CKPT_NAME").getD "sd_xl_base_1.0.safetensors")
    sampler := text .sampler "euler"
    scheduler := text .scheduler "normal"
    width := ← readValue set .width readUInt32? 512
    height := ← readValue set .height readUInt32? 512
    savePrefix := text .savePrefix ((environment "SAVE_PREFIX").getD "txt2img_example")
    catalog := valueOf set .catalog
    output := valueOf set .output
    request
    clientId
    showGraph := set.contains (.switch .showGraph) }

end PromptGraph.TextToImage
