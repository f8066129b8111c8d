import PromptGraph.Proofs.Flat
import PromptGraph.Proofs.Replay

/-!
Strict graphs and lenient ones.

The two differ only in which arguments they refuse. As long as a strict graph refuses none because
of a name that is not declared or a required input without a value, a lenient graph takes the same
steps: every resolution gives the same arguments, so build procedures see the same and do the same.
-/

namespace PromptGraph

/-- The arguments are refused for a name that is not declared or a required input without a
value. -/
def Args.unresolved (strict : Bool) (typeName : String) (inputs : List (String × InputSpec))
    (args : Args) : Bool :=
  match args.resolve strict typeName inputs with
  | .error (.unknownInput ..) | .error (.missingRequiredInput ..) => true
  | _ => false

lemma Args.exists_of_resolved {strict : Bool} {typeName : String}
    {inputs : List (String × InputSpec)} {args : Args}
    (h : args.unresolved strict typeName inputs = false) :
    ∃ given, args.resolve strict typeName inputs = .ok given := by
  unfold unresolved at h
  cases hr : args.resolve strict typeName inputs with
  | ok given => exact ⟨given, rfl⟩
  | error e =>
    obtain ⟨name, rfl⟩ | ⟨name, rfl⟩ := resolve_error_cases hr <;> simp [hr] at h

/-- In the event arguments are resolved, and refused. -/
def Event.unresolved (strict : Bool) : Event → Bool
  | .added d args _ _ => args.unresolved strict d.typeName d.inputs
  | .opened s args _ => args.unresolved strict s.typeName s.inputs
  | .cleared | .closed _ _ _ => false

lemma Signature.admit_lenient {s : Signature SubgraphOutputSpec} {strict : Bool}
    {args : Args} (h : args.unresolved strict s.typeName s.inputs = false) :
    s.admit false args = s.admit strict args := by
  obtain ⟨given, hgiven⟩ := Args.exists_of_resolved h
  unfold Signature.admit
  rw [hgiven, Args.resolve_lenient hgiven]

namespace Graph

/-- The same graph, but lenient from now on. -/
def lenient (g : Graph) : Graph := { g with config := { g.config with strict := false } }

variable {g : Graph}

lemma addNode_lenient {d : NodeDefinition} {args : Args}
    (h : args.unresolved g.config.strict d.typeName d.inputs = false) (label : Option String) :
    g.lenient.addNode d args label =
      ((g.addNode d args label).1, (g.addNode d args label).2.lenient) := by
  obtain ⟨given, hgiven⟩ := Args.exists_of_resolved h
  have hlenient : args.resolve g.lenient.config.strict d.typeName d.inputs = .ok given :=
    Args.resolve_lenient hgiven
  have hnext : g.lenient.nextId = g.nextId := rfl
  unfold addNode
  rw [hgiven, hlenient, hnext]
  by_cases hlast : g.nextId = lastId
  · simp only [hlast, if_true]
  · simp only [hlast, if_false]
    rfl

/-- The two-run induction over build procedures: what the answers to a procedure are, and so what
it does next, does not depend on strictness while its arguments resolve. -/
theorem run_lenient (p : Procedure) (g : Graph)
    (h : ∀ e ∈ g.events p, e.unresolved g.config.strict = false) :
    g.lenient.run p = ((g.run p).1, (g.run p).2.lenient) ∧ g.lenient.events p = g.events p := by
  induction p generalizing g with
  | finish outputs => exact ⟨rfl, rfl⟩
  | fail e => exact ⟨rfl, rfl⟩
  | addNode d args label next ih =>
    simp only [run, events, List.forall_mem_cons] at h ⊢
    obtain ⟨hadd, hnext⟩ := h
    have hconfig := (Step.added g d args label).config_eq
    obtain ⟨hrun, hevents⟩ := ih (g.addNode d args label).1 (g.addNode d args label).2
      (hconfig ▸ hnext)
    rw [addNode_lenient hadd]
    exact ⟨hrun, congrArg _ hevents⟩
  | addSubgraph s build args label next ihBuild ihNext =>
    have hopened : args.unresolved g.config.strict s.typeName s.inputs = false := by
      refine h (.opened s args <| s.admit g.config.strict args) ?_
      unfold events
      cases s.admit g.config.strict args <;> simp
    have hgranted : s.admit g.lenient.config.strict args = s.admit g.config.strict args :=
      Signature.admit_lenient hopened
    simp only [run, events, hgranted] at h ⊢
    cases ha : s.admit g.config.strict args with
    | error e =>
      simp only [ha, List.forall_mem_cons] at h ⊢
      obtain ⟨hrun, hevents⟩ := ihNext (.error e) g h.2
      exact ⟨hrun, congrArg _ hevents⟩
    | ok given =>
      simp only [ha, List.cons_append, List.forall_mem_cons, List.forall_mem_append] at h ⊢
      obtain ⟨-, hinner, -, hnext⟩ := h
      obtain ⟨hrun, hevents⟩ := ihBuild given g hinner
      have hconfig := config_run g (build given)
      obtain ⟨hrun', hevents'⟩ := ihNext (s.handle label (g.run (build given)).1)
        (g.run (build given)).2 (hconfig ▸ hnext)
      rw [hrun, hevents]
      exact ⟨hrun', by rw [hevents']⟩

lemma nodeEvents_lenient (d : NodeDefinition) (args : Args) (label : Option String)
    (h : ∀ e ∈ g.nodeEvents d args label, e.unresolved g.config.strict = false) :
    g.lenient.addNode d args label =
      ((g.addNode d args label).1, (g.addNode d args label).2.lenient) ∧
    g.lenient.nodeEvents d args label = g.nodeEvents d args label := by
  have hadd := addNode_lenient (h _ (List.mem_singleton_self _)) label
  exact ⟨hadd, by rw [nodeEvents, nodeEvents, hadd]⟩

lemma subgraphEvents_lenient (d : SubgraphDefinition) (args : Args) (label : Option String)
    (h : ∀ e ∈ g.subgraphEvents d args label, e.unresolved g.config.strict = false) :
    g.lenient.addSubgraph d args label =
      ((g.addSubgraph d args label).1, (g.addSubgraph d args label).2.lenient) ∧
    g.lenient.subgraphEvents d args label = g.subgraphEvents d args label := by
  have hopened : args.unresolved g.config.strict d.typeName d.inputs = false := by
    refine h (.opened d.toSignature args <| d.admit g.config.strict args) ?_
    unfold subgraphEvents
    cases d.admit g.config.strict args <;> simp
  have hgranted : d.admit g.lenient.config.strict args = d.admit g.config.strict args :=
    Signature.admit_lenient hopened
  unfold addSubgraph subgraphEvents at *
  rw [hgranted]
  cases ha : d.admit g.config.strict args with
  | error e => exact ⟨rfl, rfl⟩
  | ok given =>
    simp only [ha, List.cons_append, List.forall_mem_cons, List.forall_mem_append] at h
    obtain ⟨-, hinner, -⟩ := h
    obtain ⟨hrun, hevents⟩ := run_lenient (d.procedure given) g hinner
    simp only [hrun, hevents, and_self]

lemma apply_lenient (op : Operation)
    (h : ∀ e ∈ g.operationEvents op, e.unresolved g.config.strict = false) :
    g.lenient.answer op = g.answer op ∧ g.lenient.apply op = (g.apply op).lenient ∧
    g.lenient.operationEvents op = g.operationEvents op := by
  cases op with
  | add d args label =>
    cases d with
    | node d =>
      obtain ⟨hadd, hevents⟩ := nodeEvents_lenient d args label h
      simp only [answer, apply, operationEvents, add, hadd, hevents, and_self]
    | subgraph d =>
      obtain ⟨hadd, hevents⟩ := subgraphEvents_lenient d args label h
      simp only [answer, apply, operationEvents, add, hadd, hevents, and_self]
  | addNode d args label =>
    obtain ⟨hadd, hevents⟩ := nodeEvents_lenient d args label h
    simp only [answer, apply, operationEvents, hadd, hevents, and_self]
  | addSubgraph d args label =>
    obtain ⟨hadd, hevents⟩ := subgraphEvents_lenient d args label h
    simp only [answer, apply, operationEvents, hadd, hevents, and_self]
  | clear => exact ⟨rfl, rfl, rfl⟩

/-- What a construction does to a strict graph it does to a lenient one, answer by answer and event
by event. -/
theorem perform_lenient (S : Construction) (g : Graph)
    (h : ∀ e ∈ g.history (g.operations S), e.unresolved g.config.strict = false) :
    g.lenient.perform S = ((g.perform S).1, (g.perform S).2.lenient) ∧
    g.lenient.history (g.lenient.operations S) = g.history (g.operations S) := by
  induction S generalizing g with
  | done => exact ⟨rfl, rfl⟩
  | step op next ih =>
    simp only [operations, history, List.forall_mem_append] at h
    obtain ⟨hop, hnext⟩ := h
    obtain ⟨hanswer, happly, hevents⟩ := apply_lenient op hop
    have hconfig := (steps_apply g op).config_eq
    obtain ⟨hperform, hhistory⟩ := ih (g.answer op) (g.apply op) (hconfig ▸ hnext)
    constructor
    · simp only [perform, hanswer, happly, hperform]
    · simp only [operations, history, hanswer, happly, hevents, hhistory]

/-- **Strictness only restricts.** Carry out a construction on an empty strict graph. If arguments
are never refused there, neither in the additions nor within their build procedures, for a name
that is not declared or a required input without a value, then a lenient graph gives the same
answers, and the same happens inside; at the end it has the same nodes, index and counter, and
compiles to the same prompt or error. -/
theorem strict_only_restricts (idStart : NodeId) (stableIds : Bool) (S : Construction) :
    let strict := empty ⟨idStart, stableIds, true⟩
    let lenient := empty ⟨idStart, stableIds, false⟩
    (∀ e ∈ strict.history (strict.operations S), e.unresolved true = false) →
      (lenient.perform S).1 = (strict.perform S).1 ∧
      lenient.history (lenient.operations S) = strict.history (strict.operations S) ∧
      (lenient.perform S).2.nodes = (strict.perform S).2.nodes ∧
      (lenient.perform S).2.places = (strict.perform S).2.places ∧
      (lenient.perform S).2.nextId = (strict.perform S).2.nextId ∧
      (lenient.perform S).2.compile = (strict.perform S).2.compile := by
  intro strict lenient h
  have hlenient : lenient = strict.lenient := rfl
  obtain ⟨hperform, hhistory⟩ := perform_lenient S strict h
  rw [hlenient, hperform]
  exact ⟨rfl, hhistory, rfl, rfl, rfl, compile_withConfig _ _⟩

/-- A node with an input that is required and one that has a default. -/
def blur : NodeDefinition where
  typeName := "Blur"
  inputs := [("in", (InputSpec.connection ⟨"image"⟩).mandatory),
    ("edges", InputSpec.scalar.withDefault (.ofBool true))]
  outputs := [("blurred", ⟨⟨"image"⟩, 0⟩)]
  typeName_notBlank := by decide
  inputs_nodup := by decide
  outputs_nodup := by decide
  indexes_nodup := by decide

/-- A construction with an addition that fails, whose next step depends on the failure. -/
def recovering : Construction :=
  .step (.add (.subgraph leaky) ∅ none) fun
    | some (.error _) => .step (.addNode blur (relayArgs 1) none) fun _ => .done
    | _ => .done

theorem recovering_restricts :
    let strict := empty ⟨1, false, true⟩
    let lenient := empty ⟨1, false, false⟩
    (∀ e ∈ strict.history (strict.operations recovering), e.unresolved true = false) ∧
    (strict.perform recovering).2.nodes.toList.map (·.definition.typeName) = ["Relay", "Blur"] ∧
    (lenient.perform recovering).1 = (strict.perform recovering).1 ∧
    (lenient.perform recovering).2.compile = (strict.perform recovering).2.compile :=
  have hresolved : ∀ e ∈ (empty ⟨1, false, true⟩).history
      ((empty ⟨1, false, true⟩).operations recovering), e.unresolved true = false := by
    decide +kernel
  have ⟨hanswers, _, _, _, _, hcompile⟩ := strict_only_restricts 1 false recovering hresolved
  ⟨hresolved, by decide +kernel, hanswers, hcompile⟩

end Graph

end PromptGraph
