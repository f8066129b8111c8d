import Mathlib.Data.List.Nodup
import PromptGraph.Graph.Expand
import PromptGraph.Proofs.FirstFault
import PromptGraph.Proofs.Resolve

/-!
Which arguments a subgraph admits.

The arguments are resolved, and then the declared inputs are gone through for connections that they
do not take. Resolution leaves nothing on other names, so no connection is overlooked.
-/

namespace PromptGraph

namespace Args

/-- Every connection sits on an input that declares its kind. -/
def Fits (inputs : List (String × InputSpec)) (args : Args) : Prop :=
  ∀ (name : String) (out : Out), args[name]? = some (.connection out) →
    ∃ input ∈ inputs, input.1 = name ∧ input.2.kind = some out.kind

/-- What is held against the argument of an input: it is a connection, but the input takes none, or
takes those of another kind. -/
inductive Objection (typeName : String) (args : Args) (input : String × InputSpec) :
    BuildError → Prop
  | unexpected {out : Out} (hout : args[input.1]? = some (.connection out))
      (hkind : input.2.kind = none) :
      Objection typeName args input (.unexpectedConnection typeName input.1)
  | mismatch {out : Out} {kind : Kind} (hout : args[input.1]? = some (.connection out))
      (hkind : input.2.kind = some kind) (hne : kind ≠ out.kind) :
      Objection typeName args input (.argumentKindMismatch typeName input.1 kind out.kind)

/-- The objection to the first input that there is one to, in the order of the declarations. -/
def FirstObjection (typeName : String) (inputs : List (String × InputSpec)) (args : Args)
    (e : BuildError) : Prop :=
  ∃ before input after, inputs = before ++ input :: after ∧
    (∀ b ∈ before, ∀ e, ¬ Objection typeName args b e) ∧ Objection typeName args input e

def objection? (typeName : String) (args : Args) (input : String × InputSpec) :
    Option BuildError :=
  match args.connection? input.1, input.2.kind with
  | none, _ => none
  | some _, none => some (.unexpectedConnection typeName input.1)
  | some out, some kind =>
    if kind = out.kind then none
    else some (.argumentKindMismatch typeName input.1 kind out.kind)

variable {typeName : String} {inputs : List (String × InputSpec)} {args given : Args}
  {strict : Bool} {e : BuildError}

lemma objection?_eq_some_iff {input : String × InputSpec} :
    objection? typeName args input = some e ↔ Objection typeName args input e := by
  unfold objection?
  constructor
  · intro h
    split at h
    · cases h
    · rename_i out hout hkind
      exact Option.some.inj h ▸ .unexpected (connection?_eq_some_iff.1 hout) hkind
    · rename_i out kind hout hkind
      split at h
      · cases h
      · rename_i hne
        exact Option.some.inj h ▸ .mismatch (connection?_eq_some_iff.1 hout) hkind hne
  · intro h
    cases h with
    | unexpected hout hkind => simp [connection?_eq_some_iff.2 hout, hkind]
    | mismatch hout hkind hne => simp [connection?_eq_some_iff.2 hout, hkind, hne]

lemma objection?_eq_none_iff {input : String × InputSpec} :
    objection? typeName args input = none ↔
      ∀ out, args[input.1]? = some (.connection out) → input.2.kind = some out.kind := by
  rw [Option.eq_none_iff_forall_ne_some]
  simp only [ne_eq, objection?_eq_some_iff]
  constructor
  · intro h out hout
    cases hkind : input.2.kind with
    | none => exact absurd (.unexpected hout hkind) (h _)
    | some kind =>
      by_contra hne
      exact h _ (.mismatch hout hkind fun hk => hne (congrArg some hk))
  · intro h e he
    cases he with
    | unexpected hout hkind => simp [h _ hout] at hkind
    | mismatch hout hkind hne =>
      rw [h _ hout] at hkind
      exact hne (Option.some.inj hkind).symm

/-- The check answers with the first objection. -/
lemma checkConnections_eq (typeName : String) (args : Args) (inputs : List (String × InputSpec)) :
    checkConnections typeName args inputs =
      okUnless (inputs.findSome? (objection? typeName args)) () := by
  induction inputs with
  | nil => rfl
  | cons input inputs ih =>
    obtain ⟨name, spec⟩ := input
    rw [checkConnections, List.findSome?_cons, objection?]
    cases args.connection? name with
    | none => exact ih
    | some out =>
      cases spec.kind with
      | none => rfl
      | some kind =>
        by_cases hk : kind = out.kind
        · simpa [hk] using ih
        · simp [hk]

lemma checkConnections_eq_error_iff :
    checkConnections typeName args inputs = .error e ↔
      FirstObjection typeName inputs args e := by
  rw [checkConnections_eq, okUnless_eq_error_iff,
    findSome?_eq_some_iff_first fun _ _ => objection?_eq_some_iff, FirstObjection]

/-- The check goes through the declared inputs, so connections on other names would pass; of
resolved arguments it overlooks none. -/
lemma checkConnections_eq_ok_iff (hnodup : (inputs.map Prod.fst).Nodup)
    (hgiven : resolve strict typeName inputs args = .ok given) :
    checkConnections typeName given inputs = .ok () ↔ given.Fits inputs := by
  rw [checkConnections_eq, okUnless_eq_ok_iff, List.findSome?_eq_none_iff]
  simp only [and_true, objection?_eq_none_iff]
  constructor
  · intro h name out hout
    have hname : name ∈ given := by simp [Std.ExtTreeMap.mem_iff_isSome_getElem?, hout]
    have hdecl := (complete_of_resolve hnodup hgiven).declared name hname
    obtain ⟨input, hinput, rfl⟩ : ∃ input ∈ inputs, input.1 = name := by
      simpa [isDeclared] using hdecl
    exact ⟨input, hinput, rfl, h input hinput out hout⟩
  · intro h input hinput out hout
    obtain ⟨other, hother, hname, hkind⟩ := h input.1 out hout
    rwa [← List.inj_on_of_nodup_map hnodup hother hinput hname]

end Args

namespace Signature

variable {s : Signature SubgraphOutputSpec} {strict : Bool} {args given : Args} {e : BuildError}

lemma admit_eq_ok_iff :
    s.admit strict args = .ok given ↔
      args.resolve strict s.typeName s.inputs = .ok given ∧ given.Fits s.inputs := by
  unfold Signature.admit
  cases hr : args.resolve strict s.typeName s.inputs with
  | error e => simp [bind, Except.bind]
  | ok resolved =>
    have hfits := Args.checkConnections_eq_ok_iff s.inputs_nodup hr
    cases hc : resolved.checkConnections s.typeName s.inputs with
    | error e =>
      have hnot : ¬ resolved.Fits s.inputs := fun h => by simp [hfits.2 h] at hc
      simp only [bind, Except.bind, hc, reduceCtorEq, Except.ok.injEq, false_iff, not_and]
      rintro rfl
      exact hnot
    | ok u =>
      simp only [bind, Except.bind, hc, pure, Except.pure, Except.ok.injEq]
      constructor
      · rintro rfl
        exact ⟨rfl, hfits.1 hc⟩
      · exact And.left

lemma admit_eq_error_iff :
    s.admit strict args = .error e ↔
      args.resolve strict s.typeName s.inputs = .error e ∨
      ∃ given, args.resolve strict s.typeName s.inputs = .ok given ∧
        Args.FirstObjection s.typeName s.inputs given e := by
  unfold Signature.admit
  cases hr : args.resolve strict s.typeName s.inputs with
  | error e => simp [bind, Except.bind]
  | ok resolved =>
    simp only [bind, Except.bind, reduceCtorEq, Except.ok.injEq, false_or, exists_eq_left',
      ← Args.checkConnections_eq_error_iff]
    cases resolved.checkConnections s.typeName s.inputs <;> simp [pure, Except.pure]

end Signature

end PromptGraph
