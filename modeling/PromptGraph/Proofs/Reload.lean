import PromptGraph.Proofs.Json.TooDeep
import PromptGraph.Proofs.PromptText
import PromptGraph.Proofs.Wiring

/-!
Compiled prompts that are saved and loaded.

The ids of a compiled prompt ascend, so its text keeps all entries and their order. Three levels of
brackets stand around the value of an input; one that nests as deep as the rest of the levels
allows is read back, and a deeper one makes the whole text unreadable.
-/

namespace PromptGraph

open Json

section

variable {d : Draft} {levels : Nat}

/-- An entry is refused when one of its inputs nests deeper than two levels less. -/
lemma PromptEntry.read_tooDeep {e : PromptEntry} (h : d.Says e.toJson)
    (hdepth : ¬ ∀ p ∈ e.inputs.toList, p.2.json.depth ≤ levels) :
    FailsWith ReadError.TooDeep (PromptEntry.read (levels + 2) d) := by
  cases h with
  | object hms =>
    rcases hms with - | ⟨hkey, hsays, - | ⟨hkey', hsays', hms⟩⟩
    have hclassType : Reader.string (levels + 1) _ = .ok e.classType :=
      Reader.string_of_says hsays
    have hinputs : FailsWith ReadError.TooDeep
        (Reader.nameMap Reader.literal (levels + 1) _) :=
      Reader.failsWith_nameMap (fun v => v.json.depth ≤ levels) hsays'
        (fun p _ hp d hd => Reader.literal_of_says hd hp)
        (fun p _ hp d hd => Reader.literal_tooDeep hd (Nat.lt_of_not_le hp))
        (by simpa using hdepth)
    refine Record.failsWith_read ?_
    refine Record.failsWith_readMembers_cons hkey rfl (by simp)
      (bind_eq_ok_iff.2 ⟨_, hclassType, rfl⟩) ?_
    exact Record.failsWith_readMembers hkey' rfl (by simp) (hinputs.bind _)

namespace Prompt

variable {p : Prompt} {e : NodeId × PromptEntry}

/-- A prompt is refused when an input of one of its entries nests deeper than three levels less. -/
lemma read_tooDeep (h : d.Says p.toJson) (he : e ∈ p.entries)
    (hdepth : ¬ ∀ q ∈ e.2.inputs.toList, q.2.json.depth ≤ levels) :
    FailsWith ReadError.TooDeep (Prompt.read (levels + 3) d) := by
  have hsays : d.Says (.object
      ((p.entries.map (Prod.map toString id)).map fun (k, e) => (k, e.toJson))) := by
    rwa [List.map_map]
  have hentries : FailsWith ReadError.TooDeep (Reader.nameMap PromptEntry.read (levels + 3) d) :=
    Reader.failsWith_nameMap (fun e => ∀ q ∈ e.inputs.toList, q.2.json.depth ≤ levels) hsays
      (fun q _ hq d hd => PromptEntry.read_of_says hd hq)
      (fun q _ hq d hd => PromptEntry.read_tooDeep hd hq)
      ⟨_, List.mem_map_of_mem he, hdepth⟩
  exact hentries.bind _

variable {gaps : Gaps}

/-- A prompt whose ids ascend is read back from its text if its values nest no deeper than they
may. -/
lemma ofText_chars (hgaps : gaps.Blank) (hnumbers : ∀ n ∈ p.toJson.numbers, n.Rereads)
    (hids : p.ids.Pairwise (· < ·))
    (hdepth : ∀ e ∈ p.entries, ∀ q ∈ e.2.inputs.toList, q.2.json.depth ≤ 124) :
    ofText (String.ofList (p.toJson.chars gaps 0)) = .ok p := by
  have hlast : p.lastEntries = p := lastEntries_eq_self_iff.2 (hids.imp UInt64.ne_of_lt)
  have hread (d : Draft) (hd : d.Says p.toJson) : Prompt.read maxLevels d = .ok p := by
    have hkept : Prompt.read maxLevels d = .ok p.lastEntries :=
      read_of_says hd (hids.imp UInt64.le_of_lt) hdepth
    rwa [hlast] at hkept
  exact mapError_eq_ok_iff.2 (Reader.ofText_chars hgaps hnumbers hread)

lemma ofText_chars_tooDeep (hgaps : gaps.Blank) (hnumbers : ∀ n ∈ p.toJson.numbers, n.Rereads)
    (he : e ∈ p.entries) (hdepth : ¬ ∀ q ∈ e.2.inputs.toList, q.2.json.depth ≤ 124) :
    ∃ f, f.problem = .fault .tooDeep ∧
      ofText (String.ofList (p.toJson.chars gaps 0)) = .error (.document f) := by
  have hread (d : Draft) (hd : d.Says p.toJson) :
      FailsWith ReadError.TooDeep (Prompt.read maxLevels d) := read_tooDeep hd he hdepth
  obtain ⟨f, hf, hdeep⟩ := Reader.failsWith_ofText_chars hgaps hnumbers hread
  refine ⟨f, hdeep, ?_⟩
  rw [ofText, hf]
  rfl

end Prompt

end

namespace Graph

/-- The ids of the nodes ascend. -/
lemma Consistent.pairwise_ids {g : Graph} (hg : g.Consistent) :
    g.document.ids.Pairwise (· < ·) := by
  rw [document, Prompt.ids, List.map_map, List.pairwise_map, List.pairwise_iff_getElem]
  intro i j hi hj hij
  have hi' := hg.id_eq i (by simpa using hi)
  have hj' := hg.id_eq j (by simpa using hj)
  simp only [UInt64.lt_iff_toNat_lt, Function.comp_apply, Array.getElem_toList]
  omega

/-- **Compiled prompts and their texts.** A compiled prompt none of whose values nests more than
124 levels deep is read back from its text, compact or pretty. If a value nests deeper, both texts
are refused because they nest too deep. -/
theorem reload_compiled (config : GraphConfig) (ops : List Operation) {p : Prompt}
    (hp : ((empty config).applyAll ops).compile = .ok p)
    (hfloats : ∀ x, Number.float x ∈ p.toJson.numbers → (Number.float x).Rereads) :
    ((∀ e ∈ p.entries, ∀ input ∈ e.2.inputs.toList, input.2.json.depth ≤ 124) →
      Prompt.ofText p.compact = .ok p ∧ Prompt.ofText p.pretty = .ok p) ∧
    ((∃ e ∈ p.entries, ∃ input ∈ e.2.inputs.toList, 124 < input.2.json.depth) →
      (∃ f, f.problem = .fault .tooDeep ∧ Prompt.ofText p.compact = .error (.document f)) ∧
      ∃ f, f.problem = .fault .tooDeep ∧ Prompt.ofText p.pretty = .error (.document f)) := by
  have hids : p.ids.Pairwise (· < ·) := by
    obtain ⟨-, rfl⟩ := okUnless_eq_ok_iff.1 (compile_eq _ ▸ hp)
    exact (consistent_applyAll config ops).pairwise_ids
  have hnumbers := rereads_of_floats hfloats
  constructor
  · intro hdepth
    exact ⟨Prompt.ofText_chars Gaps.none_blank hnumbers hids hdepth,
      Prompt.ofText_chars Gaps.indented_blank hnumbers hids hdepth⟩
  · rintro ⟨e, he, input, hinput, hdeep⟩
    have hdepth : ¬ ∀ q ∈ e.2.inputs.toList, q.2.json.depth ≤ 124 := fun hall =>
      absurd (hall input hinput) (Nat.not_le_of_lt hdeep)
    exact ⟨Prompt.ofText_chars_tooDeep Gaps.none_blank hnumbers he hdepth,
      Prompt.ofText_chars_tooDeep Gaps.indented_blank hnumbers he hdepth⟩

/-- Null within so many arrays. -/
def nested (levels : Nat) : Literal :=
  .ofJson ((List.range levels).foldl (fun j _ => .array [j]) .null)

/-- A node that is given a value and a node that is connected to it, under the ids 9 and 10. -/
def valuedRelays (value : Literal) : Graph :=
  (empty { idStart := 9 }).applyAll
    [.addNode relay (.ofList [("in", Arg.literal value)]) (some "first"),
      .addNode relay (relayArgs 9) none]

/-- The float 0.5. -/
def half : Binary64 := ⟨false, 4602678819172646912, by decide⟩

theorem valuedRelays_reload :
    (∃ p, (valuedRelays (.ofNumber (.float half))).compile = .ok p ∧ p.ids = [9, 10] ∧
      Number.float half ∈ p.toJson.numbers ∧
      (∀ x, Number.float x ∈ p.toJson.numbers → (Number.float x).Rereads) ∧
      Prompt.ofText p.compact = .ok p ∧ Prompt.ofText p.pretty = .ok p) ∧
    ∃ p, (valuedRelays (nested 125)).compile = .ok p ∧
      ∃ f, f.problem = .fault .tooDeep ∧ Prompt.ofText p.pretty = .error (.document f) := by
  constructor
  · obtain ⟨p, hp, hcheck⟩ := exists_of_any
      (x := (valuedRelays (.ofNumber (.float half))).compile)
      (P := fun p => p.ids = [9, 10] ∧ Number.float half ∈ p.toJson.numbers ∧
        (∀ n ∈ p.toJson.numbers, n.Rereads) ∧
        ∀ e ∈ p.entries, ∀ input ∈ e.2.inputs.toList, input.2.json.depth ≤ 124) (by decide +kernel)
    obtain ⟨hids, hhalf, hrereads, hdepth⟩ := of_decide_eq_true hcheck
    have hfloats : ∀ x, Number.float x ∈ p.toJson.numbers → (Number.float x).Rereads :=
      fun x hx => hrereads _ hx
    exact ⟨p, hp, hids, hhalf, hfloats, (reload_compiled _ _ hp hfloats).1 hdepth⟩
  · obtain ⟨p, hp, hcheck⟩ := exists_of_any (x := (valuedRelays (nested 125)).compile)
      (P := fun p => (∀ n ∈ p.toJson.numbers, n.Rereads) ∧
        ∃ e ∈ p.entries, ∃ input ∈ e.2.inputs.toList, 124 < input.2.json.depth) (by decide +kernel)
    obtain ⟨hrereads, hdeep⟩ := of_decide_eq_true hcheck
    exact ⟨p, hp, ((reload_compiled _ _ hp fun x hx => hrereads _ hx).2 hdeep).2⟩

end Graph

end PromptGraph
