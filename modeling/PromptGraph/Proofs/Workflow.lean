import PromptGraph.Proofs.Stages
import PromptGraph.TextToImage.Command

/-!
The text-to-image workflow with any catalog.

The workflow is built in seven stages, and nine of their inputs are connected. A catalog may declare
the types of the nodes as it likes; what it declares may keep the workflow from being built or from
compiling, but it cannot change what the prompt says where both succeed.
-/

namespace PromptGraph

namespace Catalog

variable {c c' : Catalog}

lemma Consistent.foldlM_nodes (hc : c.Consistent) {ds : List NodeDefinition}
    (h : ds.foldlM (fun c d => c.extended (.node d)) c = .ok c') : c'.Consistent := by
  induction ds generalizing c with
  | nil => exact Except.ok.inj h ▸ hc
  | cons d ds ih =>
    rw [List.foldlM_cons] at h
    obtain ⟨c₁, hextended, h⟩ := bind_eq_ok_iff.1 h
    exact ih (hc.extended hextended).1 h

end Catalog

namespace TextToImage

/-- The stages of the workflow. -/
def plan : List Stage := [
  .mk "CheckpointLoaderSimple" "ckpt" [("ckpt_name", .value fun f => .ofString f.checkpoint)],
  .mk "CLIPTextEncode" "positive"
    [("text", .value fun f => .ofString f.prompt), ("clip", .output 0 "clip")],
  .mk "CLIPTextEncode" "negative"
    [("text", .value fun f => .ofString f.negative), ("clip", .output 0 "clip")],
  .mk "EmptyLatentImage" "latent"
    [("width", .value fun f => .ofUInt32 f.width), ("height", .value fun f => .ofUInt32 f.height),
      ("batch_size", .value fun _ => .ofUInt32 1)],
  .mk "KSampler" "ksampler"
    [("model", .output 0 "model"), ("positive", .output 1 "conditioning"),
      ("negative", .output 2 "conditioning"), ("latent_image", .output 3 "latent"),
      ("seed", .value fun f => .ofUInt64 f.seed), ("steps", .value fun f => .ofUInt32 f.steps),
      ("cfg", .value fun f => .ofDouble f.cfg),
      ("sampler_name", .value fun f => .ofString f.sampler),
      ("scheduler", .value fun f => .ofString f.scheduler),
      ("denoise", .value fun _ => .ofDouble (.ofInt 1))],
  .mk "VAEDecode" "decode" [("samples", .output 4 "latent"), ("vae", .output 0 "vae")],
  .mk "SaveImage" "save"
    [("images", .output 5 "image"), ("filename_prefix", .value fun f => .ofString f.savePrefix)]]

variable {c : Catalog} {flags : Flags}

/-- The workflow is what its stages build. It looks up the encoder and its input once for two
stages, which makes no difference. -/
lemma workflow_eq (c : Catalog) (flags : Flags) :
    workflow c flags = do return (← Stage.runAll c flags plan).2 := by
  unfold workflow Stage.runAll plan
  simp only [List.foldlM_cons, List.foldlM_nil, Stage.run, Stage.args, List.mapM_cons,
    List.mapM_nil, Source.eval, bind_assoc, pure_bind, List.nil_append, List.cons_append,
    List.getElem?_cons_zero, List.getElem?_cons_succ, textArg]
  refine bind_congr fun d => bind_congr fun s => ?_
  obtain ⟨loader, g⟩ := s
  cases c.node "CLIPTextEncode" with
  | error e => rfl
  | ok encode =>
    cases loader.out "clip" with
    | error e => rfl
    | ok clip => rfl

lemma consistent_builtin (h : builtinCatalog = .ok c) : c.Consistent := by
  obtain ⟨ds, -, hc⟩ := bind_eq_ok_iff.1 h
  exact Catalog.consistent_empty.foldlM_nodes hc

lemma consistent_of_load {read : String → Except FileFault String}
    (h : loadCatalog flags read = .ok c) : c.Consistent := by
  unfold loadCatalog at h
  split at h
  · unfold Catalog.ofFile at h
    split at h
    · exact (Catalog.consistent_ofText h).1
    · cases h
  · exact consistent_builtin h

/-- The built-in catalog suits the stages. -/
lemma builtin_suits : ∃ c ds, builtinCatalog = .ok c ∧ Stage.definitions? c plan = some ds := by
  obtain ⟨c, hc, hsuits⟩ := exists_of_any (x := builtinCatalog)
    (P := fun c => (Stage.definitions? c plan).isSome) (by decide +kernel)
  obtain ⟨ds, hds⟩ := Option.isSome_iff_exists.1 hsuits
  exact ⟨c, ds, hc, hds⟩

/-- **The workflow.** Whatever catalog is loaded and whatever the flags are, if the workflow is
built and compiles, the document is that of a prompt with seven entries, in which the inputs have
the values of the flags, refer to the declared outputs of the declared kinds, or have their
defaults. With the built-in catalog the workflow is built and compiles for all flags. -/
theorem workflow_exact (flags : Flags) (read : String → Except FileFault String) :
    (∀ c g p, loadCatalog flags read = .ok c → workflow c flags = .ok g → g.compile = .ok p →
      (report flags read).document = .ok (documentText flags p) ∧
      p.ids = [1, 2, 3, 4, 5, 6, 7] ∧
      p.entries.map (·.2.classType) = ["CheckpointLoaderSimple", "CLIPTextEncode", "CLIPTextEncode",
        "EmptyLatentImage", "KSampler", "VAEDecode", "SaveImage"] ∧
      List.Forall₂ (fun stage (_, entry) => ∃ d, stage.Fulfils c flags plan d entry) plan
        p.entries ∧
      ∀ entry, p.entries[4]? = some (5, entry) → (∀ x, flags.cfg ≠ .finite x) →
        entry.inputs["cfg"]? = some .null) ∧
    ∃ c, builtinCatalog = .ok c ∧ ∃ g p, workflow c flags = .ok g ∧ g.compile = .ok p := by
  constructor
  · intro c g p hload hworkflow hp
    obtain ⟨s, hs, rfl⟩ : ∃ s, Stage.runAll c flags plan = .ok s ∧ s.2 = g := by
      rw [workflow_eq] at hworkflow
      obtain ⟨s, hs, hg⟩ := bind_eq_ok_iff.1 hworkflow
      exact ⟨s, hs, Except.ok.inj hg⟩
    obtain ⟨hids, hentries⟩ := (Stage.built_of_runAll hs).compiled (consistent_of_load hload) hp
    refine ⟨?_, ?_, ?_, hentries, fun entry hentry hcfg => ?_⟩
    · simp [report, hload, hworkflow, hp]
    · exact List.map_injective_iff.2 (fun _ _ => UInt64.toNat_inj.1) hids
    · have hnames : p.entries.map (·.2.classType) = plan.map (·.typeName) := by
        rw [← List.forall₂_eq_eq_eq, List.forall₂_map_left_iff, List.forall₂_map_right_iff]
        exact hentries.flip.imp fun _ _ ⟨_, h⟩ => h.classType_eq
      exact hnames
    · obtain ⟨stage, hstage, d, h⟩ := getElem?_of_forall₂ hentries hentry
      cases hstage
      rw [h.value_eq "cfg" (fun f => .ofDouble f.cfg) (by simp)]
      cases hx : flags.cfg with
      | finite x => exact absurd hx (hcfg x)
      | infinite _ | nan => rfl
  · obtain ⟨c, ds, hc, hds⟩ := builtin_suits
    obtain ⟨s, p, hs, hp⟩ := (Stage.exists_compiled_iff c flags plan (by decide)).2 ⟨ds, hds⟩
    exact ⟨c, hc, s.2, p, by rw [workflow_eq, hs]; rfl, hp⟩

/-- Flags for the built-in catalog, with a scale that is not a number. -/
def unscaled : Flags where
  prompt := "a lighthouse"
  negative := ""
  steps := 0
  cfg := .nan
  seed := 18446744073709551615
  checkpoint := "base"
  sampler := "ddim"
  scheduler := "karras"
  width := 64
  height := 64
  savePrefix := "out"
  catalog := none
  output := none
  request := false
  clientId := none
  showGraph := false

theorem unscaled_workflow :
    ∃ c g p, loadCatalog unscaled FileTree.empty.read = .ok c ∧ workflow c unscaled = .ok g ∧
      g.compile = .ok p ∧ (report unscaled FileTree.empty.read).document = .ok p.pretty ∧
      p.ids = [1, 2, 3, 4, 5, 6, 7] ∧
      List.Forall₂ (fun stage (_, entry) => ∃ d, stage.Fulfils c unscaled plan d entry) plan
        p.entries ∧
      ∃ entry, p.entries[4]? = some (5, entry) ∧ entry.inputs["cfg"]? = some .null := by
  obtain ⟨hexact, c, hc, g, p, hg, hp⟩ := workflow_exact unscaled FileTree.empty.read
  obtain ⟨hdocument, hids, -, hentries, hcfg⟩ := hexact c g p hc hg hp
  have hfifth : p.ids[4]? = some 5 := by rw [hids]; rfl
  rw [Prompt.ids, List.getElem?_map, Option.map_eq_some_iff] at hfifth
  obtain ⟨⟨_, entry⟩, hentry, rfl⟩ := hfifth
  have hunscaled : ∀ x, unscaled.cfg ≠ .finite x := by rintro _ ⟨⟩
  exact ⟨c, g, p, hc, hg, hp, hdocument, hids, hentries, entry, hentry,
    hcfg entry hentry hunscaled⟩

end TextToImage

end PromptGraph
