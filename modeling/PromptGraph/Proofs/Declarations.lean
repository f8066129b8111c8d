import Mathlib.Data.List.Nodup
import PromptGraph.Definition.Procedure
import PromptGraph.Proofs.FirstFault
import PromptGraph.Proofs.Resolve

/-!
Which declarations make a definition, and what is said of those that make none.

The checks come one after the other: the type name, the names of the inputs, those of the outputs,
and for a node the places of the outputs. Each goes through a list from the front and refuses the
first element whose key an earlier one has. A definition that passes them answers lookups exactly.
-/

namespace PromptGraph

/-! ### Repetitions -/

section repetition

variable {α κ : Type} {key : α → κ} {seen xs : List α} {first again : α}

/-- `again` is the first element of a list that has the key of an earlier one, and `first` is the
earlier one. -/
def FirstRepetition (key : α → κ) (xs : List α) (first again : α) : Prop :=
  ∃ before after, xs = before ++ again :: after ∧ (before.map key).Nodup ∧ first ∈ before ∧
    key first = key again

lemma FirstRepetition.mem (h : FirstRepetition key xs first again) :
    first ∈ xs ∧ again ∈ xs ∧ key first = key again := by
  obtain ⟨before, after, rfl, -, hfirst, hkey⟩ := h
  exact ⟨List.mem_append_left _ hfirst, by simp, hkey⟩

lemma FirstRepetition.not_nodup (h : FirstRepetition key xs first again) :
    ¬ (xs.map key).Nodup := by
  obtain ⟨before, after, rfl, -, hfirst, hkey⟩ := h
  rw [List.map_append, List.map_cons]
  intro hnodup
  exact List.disjoint_of_nodup_append hnodup (List.mem_map_of_mem hfirst) (by simp [hkey])

variable [DecidableEq κ]

/-- The scan carries the elements it has passed, whose keys are distinct. -/
lemma clashFrom?_eq_some_iff (hseen : (seen.map key).Nodup) :
    clashFrom? key seen xs = some (first, again) ↔
      ∃ before after, xs = before ++ again :: after ∧ ((before ++ seen).map key).Nodup ∧
        first ∈ before ++ seen ∧ key first = key again := by
  induction xs generalizing seen with
  | nil => simp [clashFrom?]
  | cons x xs ih =>
    unfold clashFrom?
    split
    · -- the key of `x` has been seen, so nothing can come before the repetition
      rename_i y hfind
      have hy : y ∈ seen := List.mem_of_find?_eq_some hfind
      have hkey : key y = key x := by simpa using List.find?_some hfind
      rw [Option.some.injEq, Prod.mk.injEq]
      constructor
      · rintro ⟨rfl, rfl⟩
        exact ⟨[], xs, rfl, hseen, hy, hkey⟩
      · rintro ⟨before, after, hsplit, hnodup, hfirst, hagain⟩
        cases before with
        | nil =>
          obtain ⟨rfl, rfl⟩ := List.cons.inj hsplit
          exact ⟨List.inj_on_of_nodup_map hseen hy hfirst (hkey.trans hagain.symm), rfl⟩
        | cons z before =>
          obtain ⟨rfl, -⟩ := List.cons.inj hsplit
          rw [List.cons_append, List.map_cons, List.nodup_cons] at hnodup
          exact absurd (hkey ▸ List.mem_map_of_mem (List.mem_append_right before hy)) hnodup.1
    · -- the key of `x` is new, so `x` comes before the repetition
      rename_i hfind
      have hnew : ∀ y ∈ seen, key y ≠ key x := by simpa using hfind
      have hseen' : ((x :: seen).map key).Nodup := by simpa [hseen] using hnew
      rw [ih hseen']
      have hperm (before : List α) : (before ++ x :: seen).Perm (x :: before ++ seen) :=
        List.perm_middle
      constructor
      · rintro ⟨before, after, rfl, hnodup, hfirst, hagain⟩
        exact ⟨x :: before, after, rfl, ((hperm before).map key).nodup_iff.1 hnodup,
          (hperm before).mem_iff.1 hfirst, hagain⟩
      · rintro ⟨before, after, hsplit, hnodup, hfirst, hagain⟩
        cases before with
        | nil =>
          obtain ⟨rfl, rfl⟩ := List.cons.inj hsplit
          exact absurd hagain (hnew first hfirst)
        | cons z before =>
          obtain ⟨rfl, rfl⟩ := List.cons.inj hsplit
          exact ⟨before, after, rfl, ((hperm before).map key).nodup_iff.2 hnodup,
            (hperm before).mem_iff.2 hfirst, hagain⟩

lemma clash?_eq_some_iff : clash? key xs = some (first, again) ↔
    FirstRepetition key xs first again := by
  rw [clash?, clashFrom?_eq_some_iff (by simp)]
  simp [FirstRepetition]

lemma FirstRepetition.unique {first' again' : α} (h : FirstRepetition key xs first again)
    (h' : FirstRepetition key xs first' again') : first = first' ∧ again = again' := by
  rw [← clash?_eq_some_iff] at h h'
  rw [h, Option.some.injEq, Prod.mk.injEq] at h'
  exact h'

end repetition

/-- With distinct names a lookup finds exactly what is there. -/
lemma lookup_eq_some_iff_mem {α : Type} {xs : List (String × α)} (hnodup : (xs.map Prod.fst).Nodup)
    {name : String} {x : α} : xs.lookup name = some x ↔ (name, x) ∈ xs := by
  constructor
  · intro h
    obtain ⟨before, after, rfl, -⟩ := List.lookup_eq_some_iff.1 h
    simp
  · exact lookup_of_mem hnodup

lemma Blank.isBlank_eq_false_iff {s : String} :
    isBlank s = false ↔ ∃ c ∈ s.toList, isSpace c = false := by
  simp [isBlank]

/-! ### Signatures -/

namespace Signature

variable {σ : Type} {typeName : String} {inputs : List (String × InputSpec)}
  {outputs : List (String × σ)}

/-- Declarations that pass the checks of a signature: the type name has a character that is not
white space, and no name of an input and no name of an output is declared twice. -/
structure WellFormed (typeName : String) (inputs : List (String × InputSpec))
    (outputs : List (String × σ)) : Prop where
  named : ∃ c ∈ typeName.toList, Blank.isSpace c = false
  inputs_nodup : (inputs.map Prod.fst).Nodup
  outputs_nodup : (outputs.map Prod.fst).Nodup

/-- The first check that declarations fail, with the element it fails at. -/
inductive Refused (typeName : String) (inputs : List (String × InputSpec))
    (outputs : List (String × σ)) : DefinitionError → Prop
  | blank (hname : ∀ c ∈ typeName.toList, Blank.isSpace c = true) :
      Refused typeName inputs outputs .emptyTypeName
  | input {first again : String × InputSpec}
      (hname : ∃ c ∈ typeName.toList, Blank.isSpace c = false)
      (hagain : FirstRepetition Prod.fst inputs first again) :
      Refused typeName inputs outputs (.duplicateInput typeName again.1)
  | output {first again : String × σ}
      (hname : ∃ c ∈ typeName.toList, Blank.isSpace c = false)
      (hinputs : (inputs.map Prod.fst).Nodup)
      (hagain : FirstRepetition Prod.fst outputs first again) :
      Refused typeName inputs outputs (.duplicateOutput typeName again.1)

variable {e e' : DefinitionError}

lemma WellFormed.of_signature (s : Signature σ) : WellFormed s.typeName s.inputs s.outputs :=
  ⟨Blank.isBlank_eq_false_iff.1 s.typeName_notBlank, s.inputs_nodup, s.outputs_nodup⟩

lemma Refused.not_wellFormed (h : Refused typeName inputs outputs e) :
    ¬ WellFormed typeName inputs outputs := by
  rintro ⟨⟨c, hc, hspace⟩, hinputs, houtputs⟩
  cases h with
  | blank hname => simp [hname c hc] at hspace
  | input _ hagain => exact hagain.not_nodup hinputs
  | output _ _ hagain => exact hagain.not_nodup houtputs

/-- One check fails first. -/
lemma Refused.unique (h : Refused typeName inputs outputs e)
    (h' : Refused typeName inputs outputs e') : e = e' := by
  have named_of_blank (hblank : ∀ c ∈ typeName.toList, Blank.isSpace c = true) :
      ¬ ∃ c ∈ typeName.toList, Blank.isSpace c = false := by simpa using hblank
  cases h with
  | blank hname =>
    cases h' with
    | blank => rfl
    | input hname' | output hname' => exact absurd hname' (named_of_blank hname)
  | input hname hagain =>
    cases h' with
    | blank hname' => exact absurd hname (named_of_blank hname')
    | input _ hagain' => rw [(hagain.unique hagain').2]
    | output _ hinputs' => exact absurd hinputs' hagain.not_nodup
  | output hname hinputs hagain =>
    cases h' with
    | blank hname' => exact absurd hname (named_of_blank hname')
    | input _ hagain' => exact absurd hinputs hagain'.not_nodup
    | output _ _ hagain' => rw [(hagain.unique hagain').2]

/-- Declarations are refused, or they are those of a signature. -/
lemma build_cases (typeName : String) (inputs : List (String × InputSpec))
    (outputs : List (String × σ)) :
    (∃ s, build typeName inputs outputs = .ok s ∧ s.typeName = typeName ∧ s.inputs = inputs ∧
      s.outputs = outputs) ∨
    (∃ e, build typeName inputs outputs = .error e ∧ Refused typeName inputs outputs e) := by
  unfold build
  split
  · rename_i hname
    exact .inr ⟨_, rfl, .blank (by simpa [Blank.isBlank] using hname)⟩
  · rename_i hname
    have hname := Blank.isBlank_eq_false_iff.1 hname
    split
    · rename_i hinputs
      exact .inr ⟨_, rfl, .input hname (clash?_eq_some_iff.1 hinputs)⟩
    · rename_i hinputs
      split
      · rename_i houtputs
        exact .inr ⟨_, rfl, .output hname (clash?_eq_none_iff.1 hinputs)
          (clash?_eq_some_iff.1 houtputs)⟩
      · exact .inl ⟨_, rfl, rfl, rfl, rfl⟩

lemma build_eq_ok {s : Signature σ} (h : build typeName inputs outputs = .ok s) :
    s.typeName = typeName ∧ s.inputs = inputs ∧ s.outputs = outputs := by
  obtain ⟨s', hs', hkept⟩ | ⟨e, he, -⟩ := build_cases typeName inputs outputs
  · rw [hs', Except.ok.injEq] at h
    exact h ▸ hkept
  · rw [he] at h
    cases h

lemma exists_build_iff :
    (∃ s, build typeName inputs outputs = .ok s) ↔ WellFormed typeName inputs outputs := by
  constructor
  · rintro ⟨s, hs⟩
    obtain ⟨rfl, rfl, rfl⟩ := build_eq_ok hs
    exact .of_signature s
  · intro hwell
    obtain ⟨s, hs, -⟩ | ⟨e, -, he⟩ := build_cases typeName inputs outputs
    · exact ⟨s, hs⟩
    · exact absurd hwell he.not_wellFormed

lemma build_eq_error_iff :
    build typeName inputs outputs = .error e ↔ Refused typeName inputs outputs e := by
  obtain ⟨s, hs, -⟩ | ⟨e', he', hrefused⟩ := build_cases typeName inputs outputs
  · have hwell := exists_build_iff.1 ⟨s, hs⟩
    rw [hs]
    exact iff_of_false nofun fun h => h.not_wellFormed hwell
  · rw [he', Except.error.injEq]
    exact ⟨fun h => h ▸ hrefused, hrefused.unique⟩

lemma output?_eq_some_iff {s : Signature σ} {name : String} {spec : σ} :
    s.output? name = some spec ↔ (name, spec) ∈ s.outputs :=
  lookup_eq_some_iff_mem s.outputs_nodup

end Signature

/-! ### Nodes -/

namespace NodeDefinition

variable {typeName : String} {inputs : List (String × InputSpec)}
  {outputs : List (String × OutputSpec)} {d : NodeDefinition} {e : DefinitionError}

/-- The first check that the declarations of a node fail. -/
inductive Refused (typeName : String) (inputs : List (String × InputSpec))
    (outputs : List (String × OutputSpec)) : DefinitionError → Prop
  | signature {e : DefinitionError} (h : Signature.Refused typeName inputs outputs e) :
      Refused typeName inputs outputs e
  | index {first again : String × OutputSpec}
      (hwell : Signature.WellFormed typeName inputs outputs)
      (hagain : FirstRepetition (fun o => o.2.index) outputs first again) :
      Refused typeName inputs outputs
        (.duplicateOutputIndex typeName again.2.index first.1 again.1)

lemma build_eq_ok (h : build typeName inputs outputs = .ok d) :
    d.typeName = typeName ∧ d.inputs = inputs ∧ d.outputs = outputs := by
  unfold build at h
  split at h
  · cases h
  · rename_i s hs
    split at h
    · cases h
    · rw [Except.ok.injEq] at h
      exact h ▸ Signature.build_eq_ok hs

lemma build_eq_error_iff :
    build typeName inputs outputs = .error e ↔ Refused typeName inputs outputs e := by
  unfold build
  split
  · rename_i e' hsignature
    have hrefused := Signature.build_eq_error_iff.1 hsignature
    rw [Except.error.injEq]
    constructor
    · rintro rfl
      exact .signature hrefused
    · rintro (h | ⟨hwell, -⟩)
      · exact hrefused.unique h
      · exact absurd hwell hrefused.not_wellFormed
  · rename_i s hs
    have hwell := Signature.exists_build_iff.1 ⟨s, hs⟩
    obtain ⟨-, -, houtputs⟩ := Signature.build_eq_ok hs
    split
    · rename_i first again hclash
      rw [houtputs, clash?_eq_some_iff] at hclash
      rw [Except.error.injEq]
      constructor
      · rintro rfl
        exact .index hwell hclash
      · rintro (h | ⟨-, hagain⟩)
        · exact absurd hwell h.not_wellFormed
        · obtain ⟨rfl, rfl⟩ := hclash.unique hagain
          rfl
    · rename_i hclash
      rw [houtputs, clash?_eq_none_iff] at hclash
      refine iff_of_false nofun ?_
      rintro (h | ⟨-, hagain⟩)
      · exact h.not_wellFormed hwell
      · exact hagain.not_nodup hclash

lemma exists_build_iff :
    (∃ d, build typeName inputs outputs = .ok d) ↔
      Signature.WellFormed typeName inputs outputs ∧ (outputs.map fun o => o.2.index).Nodup := by
  constructor
  · rintro ⟨d, hd⟩
    obtain ⟨rfl, rfl, rfl⟩ := build_eq_ok hd
    exact ⟨.of_signature d.toSignature, d.indexes_nodup⟩
  · rintro ⟨hwell, hindexes⟩
    cases hd : build typeName inputs outputs with
    | ok d => exact ⟨d, rfl⟩
    | error e =>
      obtain h | ⟨-, hagain⟩ := build_eq_error_iff.1 hd
      · exact absurd hwell h.not_wellFormed
      · exact absurd hindexes hagain.not_nodup

/-- No two outputs of a definition share a place, so looking one up by its place finds it. -/
lemma outputAt?_eq_some_iff {index : UInt32} {o : String × OutputSpec} :
    d.outputAt? index = some o ↔ o ∈ d.outputs ∧ o.2.index = index := by
  constructor
  · intro h
    exact ⟨List.mem_of_find?_eq_some h, by simpa using List.find?_some h⟩
  · rintro ⟨ho, rfl⟩
    obtain ⟨o', ho'⟩ : ∃ o', d.outputAt? o.2.index = some o' :=
      Option.isSome_iff_exists.1 (List.find?_isSome.2 ⟨o, ho, by simp⟩)
    have hmem := List.mem_of_find?_eq_some ho'
    have hindex : o'.2.index = o.2.index := by simpa using List.find?_some ho'
    rw [ho', List.inj_on_of_nodup_map d.indexes_nodup hmem ho hindex]

end NodeDefinition

/-! ### Subgraphs -/

namespace SubgraphDefinition

variable {typeName : String} {inputs : List (String × InputSpec)}
  {outputs : List (String × SubgraphOutputSpec)} {procedure : Args → Procedure}

lemma build_eq_ok {d : SubgraphDefinition} (h : build typeName inputs outputs procedure = .ok d) :
    d.typeName = typeName ∧ d.inputs = inputs ∧ d.outputs = outputs ∧
      d.procedure = procedure := by
  obtain ⟨s, hs, rfl⟩ := map_eq_ok_iff.1 h
  obtain ⟨htypeName, hinputs, houtputs⟩ := Signature.build_eq_ok hs
  exact ⟨htypeName, hinputs, houtputs, rfl⟩

lemma exists_build_iff : (∃ d, build typeName inputs outputs procedure = .ok d) ↔
    Signature.WellFormed typeName inputs outputs := by
  rw [← Signature.exists_build_iff]
  constructor
  · rintro ⟨d, hd⟩
    obtain ⟨s, hs, -⟩ := map_eq_ok_iff.1 hd
    exact ⟨s, hs⟩
  · rintro ⟨s, hs⟩
    exact ⟨_, map_eq_ok_iff.2 ⟨s, hs, rfl⟩⟩

lemma build_eq_error_iff {e : DefinitionError} :
    build typeName inputs outputs procedure = .error e ↔
      Signature.Refused typeName inputs outputs e := by
  rw [← Signature.build_eq_error_iff, build]
  cases Signature.build typeName inputs outputs <;> simp [Except.map]

end SubgraphDefinition

/-- **Declarations.** A definition of a node is built exactly if its type name is not blank, no two
inputs and no two outputs have one name, and no two outputs have one place. It keeps the
declarations as they are, and its lookups by name and by place find exactly what is declared.
Otherwise the error is that of the first check that fails, at the first repetition. Definitions of
subgraphs, whose outputs have no places, are built in the same way without the last check. -/
theorem built_of_declarations (typeName : String) (inputs : List (String × InputSpec))
    (outputs : List (String × OutputSpec)) (ports : List (String × SubgraphOutputSpec))
    (procedure : Args → Procedure) :
    ((∃ d, NodeDefinition.build typeName inputs outputs = .ok d) ↔
      Signature.WellFormed typeName inputs outputs ∧ (outputs.map fun o => o.2.index).Nodup) ∧
    (∀ d, NodeDefinition.build typeName inputs outputs = .ok d →
      d.typeName = typeName ∧ d.inputs = inputs ∧ d.outputs = outputs ∧
      (∀ name spec, d.output? name = some spec ↔ (name, spec) ∈ outputs) ∧
      (∀ index output, d.outputAt? index = some output ↔
        output ∈ outputs ∧ output.2.index = index)) ∧
    (∀ e, NodeDefinition.build typeName inputs outputs = .error e ↔
      NodeDefinition.Refused typeName inputs outputs e) ∧
    ((∃ d, SubgraphDefinition.build typeName inputs ports procedure = .ok d) ↔
      Signature.WellFormed typeName inputs ports) ∧
    (∀ d, SubgraphDefinition.build typeName inputs ports procedure = .ok d →
      d.typeName = typeName ∧ d.inputs = inputs ∧ d.outputs = ports ∧ d.procedure = procedure ∧
      (∀ name spec, d.output? name = some spec ↔ (name, spec) ∈ ports)) ∧
    (∀ e, SubgraphDefinition.build typeName inputs ports procedure = .error e ↔
      Signature.Refused typeName inputs ports e) := by
  refine ⟨NodeDefinition.exists_build_iff, fun d hd => ?_,
    fun e => NodeDefinition.build_eq_error_iff, SubgraphDefinition.exists_build_iff, fun d hd => ?_,
    fun e => SubgraphDefinition.build_eq_error_iff⟩
  · obtain ⟨rfl, rfl, rfl⟩ := NodeDefinition.build_eq_ok hd
    exact ⟨rfl, rfl, rfl, fun name spec => Signature.output?_eq_some_iff,
      fun index output => NodeDefinition.outputAt?_eq_some_iff⟩
  · obtain ⟨rfl, rfl, rfl, rfl⟩ := SubgraphDefinition.build_eq_ok hd
    exact ⟨rfl, rfl, rfl, rfl, fun name spec => Signature.output?_eq_some_iff⟩

end PromptGraph
