import PromptGraph.Proofs.Shift
import PromptGraph.Session.Script

/-!
Scripts do not look at ids.

Terms name outputs of handles and arguments of the subgraph that is built, and a step depends on
which arguments there are. A script that is given moved ids thus adds the same definitions in the
same order, with moved arguments, and returns moved outputs.
-/

namespace PromptGraph

open Shift (shift)

variable (k : NodeId)

/-- A definition whose build procedure does not look at ids. -/
def Definition.Oblivious (d : Definition) : Prop := ∀ k, d.shifted k = d

/-- A catalog of such definitions. -/
def Catalog.Oblivious (c : Catalog) : Prop := ∀ name d, c.find? name = some d → d.Oblivious

lemma Catalog.oblivious_of_mem {c : Catalog} (h : ∀ d ∈ c.definitions, d.Oblivious) :
    c.Oblivious := by
  intro name d hd
  obtain ⟨place, -, hplace⟩ := Option.bind_eq_some_iff.1 hd
  exact h d (Array.mem_of_getElem? hplace)

lemma Handle.out_shift (h : Handle) (name : String) :
    (shift k h).out name = shift k (h.out name) := by
  have hfind (typeName : String) (outputs : List (String × Out)) :
      findOut typeName (shift k outputs) name = shift k (findOut typeName outputs name) := by
    unfold findOut
    rw [lookup_shift]
    cases outputs.lookup name <;> rfl
  cases h with
  | node h => exact hfind h.classType h.outputs
  | subgraph h => exact hfind h.typeName h.outputs

lemma Args.literal?_shift (args : Args) (name : String) :
    (shift k args).literal? name = args.literal? name := by
  unfold literal?
  rw [getElem?_shift]
  cases args[name]? with
  | none => rfl
  | some arg => cases arg <;> rfl

namespace Script

instance : Shift Scope where
  shift k s := { s with handles := shift k s.handles, args := shift k s.args }
  shift_neg_shift k s := by simp

lemma Term.eval_shift (t : Term) (s : Scope) : t.eval (shift k s) = shift k (t.eval s) := by
  cases t with
  | literal value => rfl
  | output handle name =>
    have hhandle : (shift k s).handles[handle]? = shift k s.handles[handle]? :=
      getElem?_shift k s.handles handle
    simp only [eval, hhandle]
    cases s.handles[handle]? with
    | none => rfl
    | some h =>
      simp only [shift_some, Handle.out_shift]
      cases h.out name <;> rfl
  | passed input => exact congrArg Except.ok (getElem?_shift k s.args input)
  | passedLiteral input =>
    have hliteral : (shift k s).args.literal? input = s.args.literal? input :=
      Args.literal?_shift k s.args input
    simp only [eval, hliteral]
    rfl
  | passedConnection input =>
    have hconnection : (shift k s).args.connection? input = shift k (s.args.connection? input) :=
      Args.connection?_shift k s.args input
    simp only [eval, hconnection]
    cases s.args.connection? input <;> rfl

lemma foldlM_shift {α β : Type} [Shift α] (f g : α → β → Except BuildError α) (terms : List β)
    (h : ∀ a b, g (shift k a) b = shift k (f a b)) (a : α) :
    terms.foldlM g (shift k a) = shift k (terms.foldlM f a) := by
  induction terms generalizing a with
  | nil => rfl
  | cons b terms ih =>
    rw [List.foldlM_cons, List.foldlM_cons, h]
    cases f a b with
    | error e => rfl
    | ok a => exact ih a

lemma evalArgs_shift (s : Scope) (terms : List (String × Term)) :
    evalArgs (shift k s) terms = shift k (evalArgs s terms) := by
  unfold evalArgs
  conv_lhs => rw [← shift_empty k]
  refine foldlM_shift k _ _ terms (fun args term => ?_) ∅
  simp only [Term.eval_shift]
  cases term.2.eval s with
  | error e => rfl
  | ok arg =>
    cases arg with
    | none => rfl
    | some arg => exact congrArg Except.ok (insert_shift k args term.1 arg)

lemma evalOutputs_shift (s : Scope) (terms : List (String × Term)) :
    evalOutputs (shift k s) terms = shift k (evalOutputs s terms) := by
  unfold evalOutputs
  conv_lhs => rw [← shift_empty k]
  refine foldlM_shift k _ _ terms (fun outputs term => ?_) ∅
  simp only [Term.eval_shift]
  cases term.2.eval s with
  | error e => rfl
  | ok arg =>
    rcases arg with - | - | out
    · rfl
    · rfl
    · exact congrArg Except.ok (insert_shift k outputs term.1 out)

lemma Step.applies_shift (step : Step) (args : Args) :
    step.applies (shift k args) = step.applies args := by
  simp only [applies, contains_shift]

/-- A definition that is found is one of the catalog; an error names no ids. -/
lemma Route.find_cases (route : Route) (c : Catalog) (name : String) :
    (∃ d, c.find? name = some d ∧ route.find c name = .ok d) ∨
    ∃ e, route.find c name = .error e ∧ ∀ k, shift k e = e := by
  cases h : c.find? name with
  | none =>
    refine .inr ⟨.unknownDefinition name, ?_, fun k => rfl⟩
    cases route <;> simp [find, Catalog.node, Catalog.subgraph, Catalog.get, h, bind, Except.bind,
      Except.map]
  | some d =>
    have hget : c.get name = .ok d := by simp [Catalog.get, h]
    cases route with
    | any => exact .inl ⟨d, rfl, hget⟩
    | node =>
      unfold find Catalog.node
      rw [hget]
      cases d with
      | node d => exact .inl ⟨.node d, rfl, rfl⟩
      | subgraph d => exact .inr ⟨_, rfl, fun k => rfl⟩
    | subgraph =>
      unfold find Catalog.subgraph
      rw [hget]
      cases d with
      | node d => exact .inr ⟨_, rfl, fun k => rfl⟩
      | subgraph d => exact .inl ⟨.subgraph d, rfl, rfl⟩

end Script

lemma Procedure.add_shifted (d : Definition) (args : Args) (label : Option String)
    (next : Except BuildError Handle → Procedure) :
    (Procedure.add d args label next).shifted k =
      Procedure.add (d.shifted k) (shift k args) label
        fun answer => (next (shift (-k) answer)).shifted k := by
  cases d with
  | node d =>
    simp only [add, shifted, Definition.shifted]
    congr 1
    funext answer
    cases answer <;> rfl
  | subgraph d =>
    simp only [add, shifted, Definition.shifted, SubgraphDefinition.shifted]
    congr 1
    funext answer
    cases answer <;> rfl

namespace Script

/-- The steps of a script do with moved handles and arguments what they do, moved. -/
theorem runSteps_shifted {c : Catalog} (hc : c.Oblivious) (typeName : String)
    (returns : List (String × Term)) (args : Args) (steps : List Step)
    (handles : NameMap Handle) :
    (runSteps c typeName returns args handles steps).shifted k =
      runSteps c typeName returns (shift k args) (shift k handles) steps := by
  induction steps generalizing handles with
  | nil =>
    have houtputs : evalOutputs ⟨shift k handles, typeName, shift k args⟩ returns =
        shift k (evalOutputs ⟨handles, typeName, args⟩ returns) :=
      evalOutputs_shift k ⟨handles, typeName, args⟩ returns
    unfold runSteps
    rw [houtputs]
    cases evalOutputs ⟨handles, typeName, args⟩ returns <;> rfl
  | cons step steps ih =>
    unfold runSteps
    rw [step.applies_shift]
    split
    · cases step.action with
      | tryOut draft =>
        simp only
        cases draft.build with
        | ok d => exact ih handles
        | error e => rfl
      | add a =>
        have hargs : evalArgs ⟨shift k handles, typeName, shift k args⟩ a.args =
            shift k (evalArgs ⟨handles, typeName, args⟩ a.args) :=
          evalArgs_shift k ⟨handles, typeName, args⟩ a.args
        simp only [hargs]
        cases evalArgs ⟨handles, typeName, args⟩ a.args with
        | error e => rfl
        | ok given =>
          obtain ⟨d, hd, hfind⟩ | ⟨e, hfind, he⟩ := a.route.find_cases c a.definition
          · simp only [shift_ok, hfind, Procedure.add_shifted, hc a.definition d hd k]
            congr 1
            funext answer
            cases answer with
            | error e => simp [Procedure.shifted]
            | ok h =>
              have hhandles := insert_shift k handles a.handle (shift (-k) h)
              rw [shift_shift_neg] at hhandles
              simp only [shift_ok, ih, hhandles]
          · simp only [shift_ok, hfind, Procedure.shifted, he k]
    · exact ih handles

/-- **Scripts only pass ids on.** The subgraph that a script defines by way of a catalog whose
definitions do not look at ids does not look at them either. -/
theorem build_oblivious {c : Catalog} (hc : c.Oblivious) {draft : SubgraphDraft}
    {d : SubgraphDefinition} (hd : draft.build c ∅ = .ok d) :
    (Definition.subgraph d).Oblivious := by
  intro k
  unfold SubgraphDraft.build SubgraphDefinition.build at hd
  cases hs : Signature.build draft.typeName draft.inputs draft.outputs with
  | error e =>
    rw [hs] at hd
    cases hd
  | ok s =>
    rw [hs] at hd
    cases hd
    refine congrArg (fun p => Definition.subgraph ⟨s, p⟩) (funext fun args => ?_)
    rw [runSteps_shifted k hc, shift_shift_neg, shift_empty]

end Script

end PromptGraph
