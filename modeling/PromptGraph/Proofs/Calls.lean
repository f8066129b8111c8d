import PromptGraph.Proofs.Admission
import PromptGraph.Proofs.Returned
import PromptGraph.Proofs.Wiring

/-!
Calls of subgraphs.

Either the build procedure runs, on exactly the resolved arguments, and all connections among them
are of the declared kinds, or the call is refused and nothing happens. What the procedure returns is
verified, and the answer is made from it; the graph is as the procedure has left it.
-/

namespace PromptGraph

namespace Graph

/-- Whatever its build procedure is, the call of the subgraph runs it on `given`: what happens is
what the procedure does, and the answer is made from what it returns. -/
structure Runs (g : Graph) (s : Signature SubgraphOutputSpec) (args : Args)
    (label : Option String) (given : Args) : Prop where
  outcome : ∀ build, g.addSubgraph ⟨s, build⟩ args label =
    (s.handle label (g.run (build given)).1, (g.run (build given)).2)
  events_eq : ∀ build, g.subgraphEvents ⟨s, build⟩ args label =
    .opened s args (.ok given) :: g.events (build given) ++
      [.closed s (g.run (build given)).1 (s.handle label (g.run (build given)).1)]

/-- Whatever its build procedure is, the call of the subgraph does not run it: the call fails,
nothing else happens, and the graph stays as it is. -/
structure Refuses (g : Graph) (s : Signature SubgraphOutputSpec) (args : Args)
    (label : Option String) (e : BuildError) : Prop where
  outcome : ∀ build, g.addSubgraph ⟨s, build⟩ args label = (.error e, g)
  events_eq : ∀ build, g.subgraphEvents ⟨s, build⟩ args label = [.opened s args (.error e)]

variable {g h : Graph} {s : Signature SubgraphOutputSpec} {args given : Args}
  {label : Option String} {e : BuildError}

lemma runs_iff : g.Runs s args label given ↔ s.admit g.config.strict args = .ok given := by
  constructor
  · intro hruns
    have hevents := hruns.events_eq fun _ => .finish ∅
    unfold subgraphEvents at hevents
    cases ha : s.admit g.config.strict args with
    | error e => simp [ha] at hevents
    | ok resolved =>
      simp only [ha, List.cons_append, List.cons.injEq, Event.opened.injEq] at hevents
      exact hevents.1.2.2
  · intro ha
    exact ⟨fun build => by simp only [addSubgraph, ha],
      fun build => by simp only [subgraphEvents, ha]⟩

lemma refuses_iff : g.Refuses s args label e ↔ s.admit g.config.strict args = .error e := by
  constructor
  · intro hrefuses
    have hevents := hrefuses.events_eq fun _ => .finish ∅
    unfold subgraphEvents at hevents
    cases ha : s.admit g.config.strict args with
    | error e =>
      simp only [ha, List.cons.injEq, Event.opened.injEq] at hevents
      exact hevents.1.2.2
    | ok resolved => simp [ha] at hevents
  · intro ha
    exact ⟨fun build => by simp only [addSubgraph, ha],
      fun build => by simp only [subgraphEvents, ha]⟩

/-- A build procedure calls a subgraph as a caller does, and goes on with the answer. -/
lemma run_addSubgraph (g : Graph) (s : Signature SubgraphOutputSpec) (build : Args → Procedure)
    (args : Args) (label : Option String) (next : Except BuildError SubgraphHandle → Procedure) :
    g.run (.addSubgraph s build args label next) =
      (g.addSubgraph ⟨s, build⟩ args label).2.run
        (next (g.addSubgraph ⟨s, build⟩ args label).1) := by
  rw [run, addSubgraph]
  cases s.admit g.config.strict args <;> rfl

lemma events_addSubgraph (g : Graph) (s : Signature SubgraphOutputSpec)
    (build : Args → Procedure) (args : Args) (label : Option String)
    (next : Except BuildError SubgraphHandle → Procedure) :
    g.events (.addSubgraph s build args label next) =
      g.subgraphEvents ⟨s, build⟩ args label ++
        (g.addSubgraph ⟨s, build⟩ args label).2.events
          (next (g.addSubgraph ⟨s, build⟩ args label).1) := by
  rw [events, addSubgraph, subgraphEvents]
  cases s.admit g.config.strict args <;> simp

lemma Step.opened_eq {answer : Except BuildError Args} (hs : Step g (.opened s args answer) h) :
    answer = s.admit g.config.strict args := by
  cases hs
  rfl

/-- In a history the call of a subgraph goes as the graph at that time has it. -/
lemma given_of_history {config : GraphConfig} {ops : List Operation} {before after : List Event}
    {answer : Except BuildError Args}
    (hsplit : (empty config).history ops = before ++ .opened s args answer :: after) :
    answer = s.admit ((empty config).after before).config.strict args := by
  have hes := steps_history ops (empty config)
  rw [hsplit] at hes
  exact hes.at_event.1.opened_eq

/-- **What a build procedure gets.** A call of a subgraph runs the build procedure exactly if the
arguments resolve and every resolved connection sits on an input that declares its kind; the
procedure gets exactly the resolved arguments. Otherwise the call is refused, with the error of the
resolution or else the first objection. This is so of the calls that build procedures make, and of
every call in a history, at any depth. -/
theorem procedure_gets_resolved (g : Graph) (s : Signature SubgraphOutputSpec) (args : Args)
    (label : Option String) :
    ((∃ given, g.Runs s args label given) ∨ (∃ e, g.Refuses s args label e)) ∧
    (∀ given, g.Runs s args label given ↔
      args.resolve g.config.strict s.typeName s.inputs = .ok given ∧ given.Fits s.inputs) ∧
    (∀ e, g.Refuses s args label e ↔
      args.resolve g.config.strict s.typeName s.inputs = .error e ∨
      ∃ given, args.resolve g.config.strict s.typeName s.inputs = .ok given ∧
        Args.FirstObjection s.typeName s.inputs given e) ∧
    (∀ build next,
      let (answer, h) := g.addSubgraph ⟨s, build⟩ args label
      g.run (.addSubgraph s build args label next) = h.run (next answer) ∧
      g.events (.addSubgraph s build args label next) =
        g.subgraphEvents ⟨s, build⟩ args label ++ h.events (next answer)) ∧
    (∀ config ops before answer after,
      (empty config).history ops = before ++ .opened s args answer :: after →
      (empty config).after before = g →
      (∀ given, answer = .ok given ↔ g.Runs s args label given) ∧
      (∀ e, answer = .error e ↔ g.Refuses s args label e)) := by
  refine ⟨?_, fun given => runs_iff.trans Signature.admit_eq_ok_iff,
    fun e => refuses_iff.trans Signature.admit_eq_error_iff,
    fun build next => ⟨run_addSubgraph .., events_addSubgraph ..⟩, ?_⟩
  · simp only [runs_iff, refuses_iff]
    cases ha : s.admit g.config.strict args with
    | ok given => exact .inl ⟨given, rfl⟩
    | error e => exact .inr ⟨e, rfl⟩
  · rintro config ops before answer after hsplit rfl
    rw [given_of_history hsplit]
    exact ⟨fun given => runs_iff.symm, fun e => refuses_iff.symm⟩

/-- The output of a `relay` as an argument of the next, but of another kind. -/
def maskArgs (id : NodeId) : Args := .ofList [("in", Arg.connection ⟨⟨"mask"⟩, id, 0⟩)]

/-- A subgraph that hands the output of a `relay` to another subgraph, first as a mask. -/
def crossing : SubgraphDefinition :=
  { relayed with
    procedure := fun _ => .addNode relay ∅ none fun
      | .error e => .fail e
      | .ok handle =>
        .addSubgraph relayed.toSignature relayed.procedure (maskArgs handle.id) none fun _ =>
          .addSubgraph relayed.toSignature relayed.procedure (relayArgs handle.id) none fun _ =>
            .finish (.ofList handle.outputs) }

theorem crossing_refused :
    let start := empty { strict := false }
    let es := start.history [.addSubgraph crossing ∅ none]
    let e := BuildError.argumentKindMismatch "Relayed" "in" ⟨"image"⟩ ⟨"mask"⟩
    es = es.take 2 ++ .opened relayed.toSignature (maskArgs 1) (.error e) :: es.drop 3 ∧
    (start.after (es.take 2)).Refuses relayed.toSignature (maskArgs 1) none e ∧
    es = es.take 3 ++ .opened relayed.toSignature (relayArgs 1) (.ok (relayArgs 1)) :: es.drop 4 ∧
    (start.after (es.take 3)).Runs relayed.toSignature (relayArgs 1) none (relayArgs 1) := by
  intro start es e
  have hrefused : es = es.take 2 ++ .opened relayed.toSignature (maskArgs 1) (.error e) ::
    es.drop 3 := by with_unfolding_all rfl
  have hran : es = es.take 3 ++ .opened relayed.toSignature (relayArgs 1) (.ok (relayArgs 1)) ::
    es.drop 4 := by with_unfolding_all rfl
  obtain ⟨-, -, -, -, hmask⟩ :=
    procedure_gets_resolved (start.after (es.take 2)) relayed.toSignature (maskArgs 1) none
  obtain ⟨-, -, -, -, hrelay⟩ :=
    procedure_gets_resolved (start.after (es.take 3)) relayed.toSignature (relayArgs 1) none
  exact ⟨hrefused, ((hmask _ _ _ _ _ hrefused rfl).2 e).1 rfl, hran,
    ((hrelay _ _ _ _ _ hran rfl).1 (relayArgs 1)).1 rfl⟩

/-- **Outputs of subgraphs.** If a build procedure fails, so does the expansion, with the same
error. If it returns outputs, the expansion succeeds exactly if they are the declared ones by name
and by kind; the handle then shows the declared names in order, each with the output returned under
it. Otherwise the complaint is about the names that are not declared, or else about the first
declared output that is missing or of another kind. The order in which the returned names are
listed does not matter, and the graph is as the procedure has left it, at any depth. -/
theorem outputs_verified (s : Signature SubgraphOutputSpec) (label : Option String) :
    (∀ e, s.handle label (.error e) = .error e) ∧
    (∀ returned : SubgraphOutputs,
      ((∃ handle, s.handle label (.ok returned) = .ok handle) ↔ returned.Agrees s.outputs) ∧
      (∀ handle, s.handle label (.ok returned) = .ok handle →
        handle.typeName = s.typeName ∧ handle.label = label ∧
        handle.outputs.map Prod.fst = s.outputs.map Prod.fst ∧
        ∀ output ∈ handle.outputs, returned[output.1]? = some output.2) ∧
      (∀ e, s.handle label (.ok returned) = .error e ↔
        ∃ complaint, e = .outputMismatch s.typeName complaint ∧
          returned.Complaint s.outputs complaint) ∧
      (∀ names, names.Perm returned.keys →
        returned.verifyBy names s.outputs = returned.verify s.outputs)) ∧
    (∀ (g : Graph) build args given next, s.admit g.config.strict args = .ok given →
      let (answer, h) := g.run (build given)
      g.addSubgraph ⟨s, build⟩ args label = (s.handle label answer, h) ∧
      g.run (.addSubgraph s build args label next) = h.run (next (s.handle label answer))) := by
  refine ⟨fun e => rfl, fun returned => ⟨?_, fun handle hok => ?_,
    fun e => Signature.handle_eq_error_iff,
    fun names hnames => SubgraphOutputs.verifyBy_eq s.outputs_nodup hnames⟩,
    fun g build args given next hadmit => ?_⟩
  · simp [Signature.handle_eq_ok_iff]
  · obtain ⟨hagrees, rfl⟩ := Signature.handle_eq_ok_iff.1 hok
    refine ⟨rfl, rfl,
      SubgraphOutputs.map_fst_listed (SubgraphOutputs.agrees_iff.1 hagrees).2, ?_⟩
    intro output houtput
    exact Std.ExtTreeMap.mem_toList_iff_getElem?_eq_some.1
      (SubgraphOutputs.mem_of_mem_listed houtput)
  · have hruns : g.Runs s args label given := runs_iff.2 hadmit
    have hadd := hruns.outcome build
    exact ⟨hadd, by rw [run_addSubgraph, hadd]⟩

/-- Names that are not declared come before the output that is missing. -/
example (out : Out) : relayed.handle none (.ok (.ofList [("zoom", out), ("blur", out)])) =
    .error (.outputMismatch "Relayed" (.undeclared ["blur", "zoom"])) := rfl

end Graph

end PromptGraph
