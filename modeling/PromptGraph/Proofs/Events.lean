import Mathlib.Data.List.Induction
import PromptGraph.Proofs.Returned

/-!
What happens to a graph, as a list of events in order of time.

Callers add definitions and clear the graph; build procedures add definitions in turn, to any
depth. Flattened, all of this is a list of events, and an event changes the graph in one of two
ways: a node is added, or everything is cleared. What every event keeps, every sequence of
operations keeps.
-/

namespace PromptGraph

/-- What a caller can do to a graph. -/
inductive Operation where
  | add (definition : Definition) (args : Args) (label : Option String)
  | addNode (definition : NodeDefinition) (args : Args) (label : Option String)
  | addSubgraph (definition : SubgraphDefinition) (args : Args) (label : Option String)
  | clear

/-- Something that happens to a graph, with the answer that it gives. -/
inductive Event where
  | cleared
  | added (definition : NodeDefinition) (args : Args) (label : Option String)
      (answer : Except BuildError NodeHandle)
  /-- A subgraph is called with `args`; its procedure gets `given`, or does not run. -/
  | opened (signature : Signature SubgraphOutputSpec) (args : Args)
      (given : Except BuildError Args)
  /-- The procedure of a subgraph has ended with `returned`. -/
  | closed (signature : Signature SubgraphOutputSpec) (returned : Except BuildError SubgraphOutputs)
      (answer : Except BuildError SubgraphHandle)

namespace Event

def isClear : Event → Bool
  | .cleared => true
  | _ => false

/-- The event is a clear after which the ids start again. -/
def restarts (stableIds : Bool) (e : Event) : Bool := stableIds && e.isClear

/-- The outputs that are handed in: as arguments, or as what a build procedure returns. -/
def uses : Event → List Out
  | .cleared => []
  | .added _ args _ _ => args.outs
  | .opened _ args _ => args.outs
  | .closed _ (.ok returned) _ => returned.toList.map Prod.snd
  | .closed _ (.error _) _ => []

/-- The outputs that are handed out, by a handle. -/
def exposes : Event → List Out
  | .added _ _ _ (.ok handle) => handle.outputs.map Prod.snd
  | .closed _ _ (.ok handle) => handle.outputs.map Prod.snd
  | _ => []

/-- The outputs that come into being, with their node. -/
def makes : Event → List Out
  | .added _ _ _ (.ok handle) => handle.outputs.map Prod.snd
  | _ => []

end Event

namespace Graph

/-- The graph after an operation, whether that succeeds or not. -/
def apply (g : Graph) : Operation → Graph
  | .add d args label => (g.add d args label).2
  | .addNode d args label => (g.addNode d args label).2
  | .addSubgraph d args label => (g.addSubgraph d args label).2
  | .clear => g.clear

def applyAll (g : Graph) (ops : List Operation) : Graph := ops.foldl apply g

/-- What happens while a build procedure runs. -/
def events (g : Graph) : Procedure → List Event
  | .finish _ => []
  | .fail _ => []
  | .addNode d args label next =>
    let (answer, g) := g.addNode d args label
    .added d args label answer :: g.events (next answer)
  | .addSubgraph s build args label next =>
    match s.admit g.config.strict args with
    | .error e => .opened s args (.error e) :: g.events (next (.error e))
    | .ok given =>
      let inner := g.events (build given)
      let (returned, g) := g.run (build given)
      let answer := s.handle label returned
      .opened s args (.ok given) :: inner ++ .closed s returned answer :: g.events (next answer)

def nodeEvents (g : Graph) (d : NodeDefinition) (args : Args) (label : Option String) :
    List Event :=
  [.added d args label (g.addNode d args label).1]

def subgraphEvents (g : Graph) (d : SubgraphDefinition) (args : Args) (label : Option String) :
    List Event :=
  match d.admit g.config.strict args with
  | .error e => [.opened d.toSignature args (.error e)]
  | .ok given =>
    let returned := (g.run (d.procedure given)).1
    .opened d.toSignature args (.ok given) :: g.events (d.procedure given) ++
      [.closed d.toSignature returned (d.handle label returned)]

/-- What happens during an operation. -/
def operationEvents (g : Graph) : Operation → List Event
  | .add (.node d) args label => g.nodeEvents d args label
  | .add (.subgraph d) args label => g.subgraphEvents d args label
  | .addNode d args label => g.nodeEvents d args label
  | .addSubgraph d args label => g.subgraphEvents d args label
  | .clear => [.cleared]

/-- Everything that happens during a sequence of operations. -/
def history (g : Graph) : List Operation → List Event
  | [] => []
  | op :: ops => g.operationEvents op ++ (g.apply op).history ops

/-- The graph after an event. -/
def afterEvent (g : Graph) : Event → Graph
  | .cleared => g.clear
  | .added d args label _ => (g.addNode d args label).2
  | .opened _ _ _ | .closed _ _ _ => g

/-- The graph after a list of events. -/
def after (g : Graph) (es : List Event) : Graph := es.foldl afterEvent g

end Graph

/-! ### Steps -/

/-- The handle of a subgraph hands out only what the procedure handed in. -/
lemma Event.uses_of_exposes_closed {s : Signature SubgraphOutputSpec} {label : Option String}
    {returned : Except BuildError SubgraphOutputs} {out : Out}
    (hout : out ∈ (Event.closed s returned (s.handle label returned)).exposes) :
    out ∈ (Event.closed s returned (s.handle label returned)).uses := by
  cases ha : s.handle label returned with
  | error e => simp [exposes, ha] at hout
  | ok handle =>
    cases returned with
    | error e => cases ha
    | ok returned =>
      obtain ⟨-, rfl⟩ := Signature.handle_eq_ok_iff.1 ha
      rw [ha] at hout
      obtain ⟨o, ho, rfl⟩ := List.mem_map.1 hout
      exact List.mem_map_of_mem (SubgraphOutputs.mem_of_mem_listed ho)

namespace Graph

/-- What one event does to a graph. -/
inductive Step : Graph → Event → Graph → Prop
  | cleared (g : Graph) : Step g .cleared g.clear
  | added (g : Graph) (d : NodeDefinition) (args : Args) (label : Option String) :
      Step g (.added d args label (g.addNode d args label).1) (g.addNode d args label).2
  | opened (g : Graph) (s : Signature SubgraphOutputSpec) (args : Args) :
      Step g (.opened s args <| s.admit g.config.strict args) g
  | closed (g : Graph) (s : Signature SubgraphOutputSpec) (label : Option String)
      (returned : Except BuildError SubgraphOutputs) :
      Step g (.closed s returned (s.handle label returned)) g

variable {g h k : Graph}

/-- Adding a node fails and leaves the graph as it is, or it pushes a node with resolved
arguments. -/
lemma addNode_cases (g : Graph) (d : NodeDefinition) (args : Args) (label : Option String) :
    (∃ e, g.addNode d args label = (.error e, g)) ∨
    (∃ given, args.resolve g.config.strict d.typeName d.inputs = .ok given ∧ g.nextId ≠ lastId ∧
      g.addNode d args label = (.ok (g.push d given label).1, (g.push d given label).2)) := by
  unfold addNode
  cases hr : args.resolve g.config.strict d.typeName d.inputs with
  | error e => exact .inl ⟨e, rfl⟩
  | ok given =>
    by_cases hid : g.nextId = lastId
    · exact .inl ⟨.idSpaceExhausted g.nextId, by simp [hid]⟩
    · exact .inr ⟨given, rfl, hid, by simp [hid]⟩

section addNode

variable {d : NodeDefinition} {args : Args} {label : Option String}

/-- The errors of an addition: that of the resolution, even if the ids are exhausted, or else that
the ids are exhausted. -/
lemma addNode_eq_error_iff {e : BuildError} :
    (g.addNode d args label).1 = .error e ↔
      args.resolve g.config.strict d.typeName d.inputs = .error e ∨
      (∃ given, args.resolve g.config.strict d.typeName d.inputs = .ok given) ∧
        g.nextId = lastId ∧ e = .idSpaceExhausted lastId := by
  unfold addNode
  cases hr : args.resolve g.config.strict d.typeName d.inputs with
  | error e => simp
  | ok given =>
    by_cases hid : g.nextId = lastId
    · simp [hid, eq_comm]
    · simp [hid]

lemma addNode_of_error {e : BuildError} (he : (g.addNode d args label).1 = .error e) :
    (g.addNode d args label).2 = g := by
  obtain ⟨e, hadd⟩ | ⟨given, -, -, hadd⟩ := addNode_cases g d args label
  · rw [hadd]
  · rw [hadd] at he
    cases he

end addNode

/-- A step leaves the graph as it is and makes no outputs, or it clears the graph, or it pushes a
node. -/
lemma Step.effect {e : Event} (s : Step g e h) :
    (h = g ∧ e.isClear = false ∧ e.makes = [] ∧ ∀ out ∈ e.exposes, out ∈ e.uses) ∨
    (e = .cleared ∧ h = g.clear) ∨
    (∃ d args given label, args.resolve g.config.strict d.typeName d.inputs = .ok given ∧
      g.nextId ≠ lastId ∧ e = .added d args label (.ok (g.push d given label).1) ∧
      h = (g.push d given label).2) := by
  cases s with
  | cleared => exact .inr (.inl ⟨rfl, rfl⟩)
  | added d args label =>
    obtain ⟨e, he⟩ | ⟨given, hr, hid, he⟩ := addNode_cases g d args label
    · rw [he]
      exact .inl ⟨rfl, rfl, rfl, by simp [Event.exposes]⟩
    · rw [he]
      exact .inr (.inr ⟨d, args, given, label, hr, hid, rfl, rfl⟩)
  | opened s args => exact .inl ⟨rfl, rfl, rfl, by simp [Event.exposes]⟩
  | closed s label returned =>
    exact .inl ⟨rfl, rfl, rfl, fun out hout => Event.uses_of_exposes_closed hout⟩

/-- A list of events leads from one graph to another. -/
inductive Steps (g : Graph) : List Event → Graph → Prop
  | refl : Steps g [] g
  | tail {es : List Event} {e : Event} {h k : Graph} :
      Steps g es h → Step h e k → Steps g (es ++ [e]) k

lemma Steps.single {e : Event} (s : Step g e h) : Steps g [e] h := .tail .refl s

lemma Steps.trans {es fs : List Event} (hes : Steps g es h) (hfs : Steps h fs k) :
    Steps g (es ++ fs) k := by
  induction hfs with
  | refl => simpa using hes
  | tail _ s ih =>
    rw [← List.append_assoc]
    exact .tail ih s

lemma Steps.head {e : Event} {es : List Event} (s : Step g e h) (hes : Steps h es k) :
    Steps g (e :: es) k :=
  (Steps.single s).trans hes

/-- The one induction over build procedures: a run is the sequence of its events. -/
theorem steps_run (p : Procedure) (g : Graph) : Steps g (g.events p) (g.run p).2 := by
  induction p generalizing g with
  | finish _ => exact .refl
  | fail _ => exact .refl
  | addNode d args label next ih => exact .head (.added g d args label) (ih _ _)
  | addSubgraph s build args label next ihBuild ihNext =>
    have hopen := Step.opened g s args
    cases ha : s.admit g.config.strict args with
    | error e =>
      rw [ha] at hopen
      simp only [events, run, ha]
      exact .head hopen (ihNext _ _)
    | ok given =>
      rw [ha] at hopen
      simp only [events, run, ha]
      exact .head hopen ((ihBuild given g).trans (.head (.closed _ s label _) (ihNext _ _)))

lemma steps_addNode (g : Graph) (d : NodeDefinition) (args : Args) (label : Option String) :
    Steps g (g.nodeEvents d args label) (g.addNode d args label).2 :=
  .single (.added g d args label)

lemma steps_addSubgraph (g : Graph) (d : SubgraphDefinition) (args : Args)
    (label : Option String) :
    Steps g (g.subgraphEvents d args label) (g.addSubgraph d args label).2 := by
  unfold subgraphEvents addSubgraph
  have hopen := Step.opened g d.toSignature args
  cases ha : d.admit g.config.strict args with
  | error e =>
    rw [ha] at hopen
    exact .single hopen
  | ok given =>
    rw [ha] at hopen
    exact .head hopen ((steps_run _ g).trans (.single (.closed _ d.toSignature label _)))

lemma steps_apply (g : Graph) (op : Operation) : Steps g (g.operationEvents op) (g.apply op) := by
  cases op with
  | add d args label =>
    cases d with
    | node d => exact steps_addNode g d args label
    | subgraph d => exact steps_addSubgraph g d args label
  | addNode d args label => exact steps_addNode g d args label
  | addSubgraph d args label => exact steps_addSubgraph g d args label
  | clear => exact .single (.cleared g)

/-- A sequence of operations is the sequence of its events. -/
theorem steps_history (ops : List Operation) (g : Graph) :
    Steps g (g.history ops) (g.applyAll ops) := by
  induction ops generalizing g with
  | nil => exact .refl
  | cons op ops ih => exact (steps_apply g op).trans (ih _)

/-- What one step keeps holds at the end if it holds at the start. -/
theorem Steps.invariant {P : Graph → Prop} (hP : ∀ {g e h}, P g → Step g e h → P h)
    {es : List Event} (hes : Steps g es h) (hg : P g) : P h := by
  induction hes with
  | refl => exact hg
  | tail _ s ih => exact hP ih s

/-! ### Histories in parts -/

section parts

variable {e : Event} {es fs : List Event}

lemma after_snoc : g.after (es ++ [e]) = (g.after es).afterEvent e := by
  rw [after, List.foldl_append]
  rfl

lemma Step.eq_afterEvent (s : Step g e h) : h = g.afterEvent e := by cases s <;> rfl

lemma Steps.eq_after (hes : Steps g es h) : h = g.after es := by
  induction hes with
  | refl => rfl
  | tail hes s ih =>
    rw [after_snoc, ← ih]
    exact s.eq_afterEvent

lemma Steps.of_snoc (hes : Steps g (es ++ [e]) k) : ∃ h, Steps g es h ∧ Step h e k := by
  generalize hall : es ++ [e] = all at hes
  cases hes with
  | refl => simp at hall
  | tail hes s =>
    obtain ⟨rfl, rfl⟩ := List.append_inj' hall rfl |>.imp_right List.singleton_inj.1
    exact ⟨_, hes, s⟩

/-- The events up to a point lead to a graph from which the others lead on. -/
lemma Steps.split (hes : Steps g (es ++ fs) k) :
    Steps g es (g.after es) ∧ Steps (g.after es) fs k := by
  induction fs using List.reverseRecOn generalizing k with
  | nil =>
    rw [List.append_nil] at hes
    rw [← hes.eq_after]
    exact ⟨hes, .refl⟩
  | append_singleton fs e ih =>
    rw [← List.append_assoc] at hes
    obtain ⟨h, hes, s⟩ := hes.of_snoc
    obtain ⟨hbefore, hfs⟩ := ih hes
    exact ⟨hbefore, .tail hfs s⟩

/-- What happens in the middle is a step of the graph at that point. -/
lemma Steps.at_event (hes : Steps g (es ++ e :: fs) k) :
    Step (g.after es) e (g.after (es ++ [e])) ∧ Steps (g.after (es ++ [e])) fs k := by
  rw [List.append_cons] at hes
  obtain ⟨hbefore, hrest⟩ := hes.split
  obtain ⟨h, hes, s⟩ := hbefore.of_snoc
  exact ⟨hes.eq_after ▸ s, hrest⟩

end parts

end Graph

end PromptGraph
