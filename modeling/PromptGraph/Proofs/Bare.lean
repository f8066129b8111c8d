import PromptGraph.Proofs.Replay

/-!
Labels and choices, which nothing looks at.

A label goes into the handle, the node and the entry of what is added; the choices of an input stay
in its definition. Nothing that a graph does depends on them: once they are taken out of all that
goes in, they are out of all that comes out, and the rest is the same.
-/

namespace PromptGraph

/-! ### Definitions -/

def InputSpec.bare (spec : InputSpec) : InputSpec := { spec with choices := none }

/-- Inputs without choices. -/
def bareInputs (inputs : List (String × InputSpec)) : List (String × InputSpec) :=
  inputs.map fun input => (input.1, input.2.bare)

lemma map_fst_bareInputs (inputs : List (String × InputSpec)) :
    (bareInputs inputs).map Prod.fst = inputs.map Prod.fst := by
  simp [bareInputs, Function.comp_def]

namespace Args

variable (strict : Bool) (typeName : String) (inputs : List (String × InputSpec)) (args : Args)

lemma isDeclared_bareInputs : isDeclared (bareInputs inputs) = isDeclared inputs := by
  funext name
  simp [isDeclared, bareInputs, Function.comp_def]

lemma fill_bareInputs : fill strict typeName (bareInputs inputs) args =
    fill strict typeName inputs args := by
  induction inputs generalizing args with
  | nil => rfl
  | cons input inputs ih =>
    simp only [bareInputs, List.map_cons, fill, InputSpec.bare] at ih ⊢
    simp only [ih]

lemma resolve_bareInputs : args.resolve strict typeName (bareInputs inputs) =
    args.resolve strict typeName inputs := by
  simp only [resolve, undeclared, isDeclared_bareInputs, fill_bareInputs, map_fst_bareInputs]

lemma checkConnections_bareInputs : args.checkConnections typeName (bareInputs inputs) =
    args.checkConnections typeName inputs := by
  induction inputs with
  | nil => rfl
  | cons input inputs ih =>
    simp only [bareInputs, List.map_cons, checkConnections, InputSpec.bare] at ih ⊢
    simp only [ih]

end Args

def Signature.bare {σ : Type} (s : Signature σ) : Signature σ :=
  { s with
    inputs := bareInputs s.inputs
    inputs_nodup := map_fst_bareInputs s.inputs ▸ s.inputs_nodup }

def NodeDefinition.bare (d : NodeDefinition) : NodeDefinition :=
  ⟨d.toSignature.bare, d.indexes_nodup⟩

/-! ### Handles -/

def NodeHandle.labelled (label : Option String) (h : NodeHandle) : NodeHandle := { h with label }

def SubgraphHandle.labelled (label : Option String) (h : SubgraphHandle) : SubgraphHandle :=
  { h with label }

def Handle.labelled (label : Option String) : Handle → Handle
  | .node h => .node (h.labelled label)
  | .subgraph h => .subgraph (h.labelled label)

namespace Answer

def labelled (label : Option String) (answer : Answer) : Answer :=
  answer.map (·.map (·.labelled label))

lemma labelled_node (label : Option String) (answer : Except BuildError NodeHandle) :
    labelled label (some (answer.map .node)) =
      some ((answer.map (·.labelled label)).map .node) := by
  cases answer <;> rfl

lemma labelled_subgraph (label : Option String) (answer : Except BuildError SubgraphHandle) :
    labelled label (some (answer.map .subgraph)) =
      some ((answer.map (·.labelled label)).map .subgraph) := by
  cases answer <;> rfl

end Answer

/-! ### Procedures and constructions -/

/-- The procedure without labels and choices. It goes on as if the handles had the labels. -/
def Procedure.bare : Procedure → Procedure
  | .finish outputs => .finish outputs
  | .fail e => .fail e
  | .addNode d args label next =>
    .addNode d.bare args none fun answer => (next (answer.map (·.labelled label))).bare
  | .addSubgraph s build args label next =>
    .addSubgraph s.bare (fun args => (build args).bare) args none fun answer =>
      (next (answer.map (·.labelled label))).bare

def SubgraphDefinition.bare (d : SubgraphDefinition) : SubgraphDefinition :=
  ⟨d.toSignature.bare, fun args => (d.procedure args).bare⟩

def Definition.bare : Definition → Definition
  | .node d => .node d.bare
  | .subgraph d => .subgraph d.bare

namespace Operation

def label : Operation → Option String
  | .add _ _ label | .addNode _ _ label | .addSubgraph _ _ label => label
  | .clear => none

def bare : Operation → Operation
  | .add d args _ => .add d.bare args none
  | .addNode d args _ => .addNode d.bare args none
  | .addSubgraph d args _ => .addSubgraph d.bare args none
  | .clear => .clear

end Operation

/-- The construction without labels and choices. It goes on as if the handles had the labels. -/
def Construction.bare : Construction → Construction
  | .done => .done
  | .step op next => .step op.bare fun answer => (next (answer.labelled op.label)).bare

def Event.bare : Event → Event
  | .cleared => .cleared
  | .added d args _ answer => .added d.bare args none (answer.map (·.labelled none))
  | .opened s args given => .opened s.bare args given
  | .closed s returned answer => .closed s.bare returned (answer.map (·.labelled none))

/-! ### Graphs and prompts -/

def NodeRecord.bare (r : NodeRecord) : NodeRecord :=
  { r with definition := r.definition.bare, label := none }

def Graph.bare (g : Graph) : Graph := { g with nodes := g.nodes.map (·.bare) }

/-- The prompt without annotations. -/
def Prompt.bare (p : Prompt) : Prompt :=
  ⟨p.entries.map fun entry => (entry.1, { entry.2 with annotations := none })⟩

/-! ### Steps -/

namespace Signature

variable (s : Signature SubgraphOutputSpec) (label : Option String)

lemma admit_bare (strict : Bool) (args : Args) :
    s.bare.admit strict args = s.admit strict args := by
  unfold Signature.admit
  simp only [bare, Args.resolve_bareInputs, Args.checkConnections_bareInputs]

lemma handle_bare (returned : Except BuildError SubgraphOutputs) :
    s.bare.handle none returned = (s.handle label returned).map (·.labelled none) := by
  cases returned with
  | error e => rfl
  | ok returned =>
    simp only [handle, bare]
    cases SubgraphOutputs.verify returned s.outputs <;> rfl

lemma handle_labelled (returned : Except BuildError SubgraphOutputs) :
    ((s.handle label returned).map (·.labelled none)).map (·.labelled label) =
      s.handle label returned := by
  cases returned with
  | error e => rfl
  | ok returned =>
    simp only [handle]
    cases SubgraphOutputs.verify returned s.outputs <;> rfl

end Signature

namespace Graph

variable (g : Graph)

section addNode

variable (d : NodeDefinition) (args : Args) (label : Option String)

lemma push_bare : g.bare.push d.bare args none =
    ((g.push d args label).1.labelled none, (g.push d args label).2.bare) := by
  simp only [push, bare, Array.map_push, Array.size_map]
  rfl

lemma addNode_bare : g.bare.addNode d.bare args none =
    ((g.addNode d args label).1.map (·.labelled none), (g.addNode d args label).2.bare) := by
  have hargs : args.resolve g.bare.config.strict d.bare.typeName d.bare.inputs =
      args.resolve g.config.strict d.typeName d.inputs := Args.resolve_bareInputs ..
  have hnext : g.bare.nextId = g.nextId := rfl
  unfold addNode
  rw [hargs, hnext]
  cases args.resolve g.config.strict d.typeName d.inputs with
  | error e => rfl
  | ok given =>
    by_cases hid : g.nextId = lastId
    · simp only [hid, if_true]
      rfl
    · simp only [hid, if_false, push_bare g d given label]
      rfl

lemma addNode_labelled :
    ((g.addNode d args label).1.map (·.labelled none)).map (·.labelled label) =
      (g.addNode d args label).1 := by
  obtain ⟨e, hadd⟩ | ⟨given, -, -, hadd⟩ := addNode_cases g d args label <;> rw [hadd] <;> rfl

end addNode

/-- The induction over build procedures: the answers to a procedure are the same but for the labels,
and what it does next is the same but for the labels and choices. -/
theorem run_bare (p : Procedure) (g : Graph) :
    g.bare.run p.bare = ((g.run p).1, (g.run p).2.bare) ∧
    g.bare.events p.bare = (g.events p).map Event.bare := by
  induction p generalizing g with
  | finish outputs => exact ⟨rfl, rfl⟩
  | fail e => exact ⟨rfl, rfl⟩
  | addNode d args label next ih =>
    obtain ⟨hrun, hevents⟩ := ih (g.addNode d args label).1 (g.addNode d args label).2
    simp only [Procedure.bare, run, events, addNode_bare g d args label, addNode_labelled]
    exact ⟨hrun, congrArg _ hevents⟩
  | addSubgraph s build args label next ihBuild ihNext =>
    have hgranted : s.bare.admit g.bare.config.strict args = s.admit g.config.strict args :=
      s.admit_bare g.config.strict args
    simp only [Procedure.bare, run, events, hgranted]
    cases s.admit g.config.strict args with
    | error e =>
      obtain ⟨hrun, hevents⟩ := ihNext (.error e) g
      exact ⟨hrun, congrArg _ hevents⟩
    | ok given =>
      obtain ⟨hrun, hevents⟩ := ihBuild given g
      obtain ⟨hrun', hevents'⟩ := ihNext (s.handle label (g.run (build given)).1)
        (g.run (build given)).2
      simp only [hrun, hevents, s.handle_bare label, s.handle_labelled label, hrun', hevents',
        true_and]
      rw [List.map_append, List.map_cons, List.map_cons]
      rfl

section operations

variable (args : Args) (label : Option String)

lemma nodeEvents_bare (d : NodeDefinition) :
    g.bare.nodeEvents d.bare args none = (g.nodeEvents d args label).map Event.bare := by
  rw [nodeEvents, addNode_bare g d args label]
  rfl

lemma addSubgraph_bare (d : SubgraphDefinition) :
    g.bare.addSubgraph d.bare args none =
      ((g.addSubgraph d args label).1.map (·.labelled none), (g.addSubgraph d args label).2.bare) ∧
    g.bare.subgraphEvents d.bare args none = (g.subgraphEvents d args label).map Event.bare := by
  have hgranted : d.bare.admit g.bare.config.strict args = d.admit g.config.strict args :=
    d.admit_bare g.config.strict args
  unfold addSubgraph subgraphEvents
  rw [hgranted]
  cases d.admit g.config.strict args with
  | error e => exact ⟨rfl, rfl⟩
  | ok given =>
    obtain ⟨hrun, hevents⟩ := run_bare (d.procedure given) g
    have hhandle : d.bare.handle none (g.run (d.procedure given)).1 = _ := d.handle_bare label _
    have hprocedure : d.bare.procedure given = (d.procedure given).bare := rfl
    simp only [hprocedure, hrun, hevents, hhandle, true_and]
    rw [List.map_append, List.map_cons]
    rfl

lemma addSubgraph_labelled (d : SubgraphDefinition) :
    ((g.addSubgraph d args label).1.map (·.labelled none)).map (·.labelled label) =
      (g.addSubgraph d args label).1 := by
  unfold addSubgraph
  cases d.admit g.config.strict args with
  | error e => rfl
  | ok given => exact d.handle_labelled label _

end operations

lemma empty_bare (config : GraphConfig) : (empty config).bare = empty config := by
  simp only [empty, bare, Array.map_empty]

lemma clear_bare : g.bare.clear = g.clear.bare := by
  simp only [clear, bare, Array.map_empty]
  rfl

/-- A step of a caller. -/
lemma apply_bare (op : Operation) :
    g.bare.answer op.bare = (g.answer op).labelled none ∧ g.bare.apply op.bare = (g.apply op).bare ∧
    g.bare.operationEvents op.bare = (g.operationEvents op).map Event.bare := by
  cases op with
  | add d args label =>
    cases d with
    | node d =>
      simp only [Operation.bare, Definition.bare, answer, apply, operationEvents, add,
        addNode_bare g d args label, nodeEvents_bare g args label d, Answer.labelled_node, and_self]
    | subgraph d =>
      obtain ⟨hadd, hevents⟩ := addSubgraph_bare g args label d
      simp only [Operation.bare, Definition.bare, answer, apply, operationEvents, add, hadd,
        hevents, Answer.labelled_subgraph, and_self]
  | addNode d args label =>
    simp only [Operation.bare, answer, apply, operationEvents, addNode_bare g d args label,
      nodeEvents_bare g args label d, Answer.labelled_node, and_self]
  | addSubgraph d args label =>
    obtain ⟨hadd, hevents⟩ := addSubgraph_bare g args label d
    simp only [Operation.bare, answer, apply, operationEvents, hadd, hevents,
      Answer.labelled_subgraph, and_self]
  | clear => exact ⟨rfl, clear_bare g, rfl⟩

lemma answer_labelled (op : Operation) :
    ((g.answer op).labelled none).labelled op.label = g.answer op := by
  cases op with
  | add d args label =>
    cases d with
    | node d => simp only [answer, add, Operation.label, Answer.labelled_node, addNode_labelled]
    | subgraph d =>
      simp only [answer, add, Operation.label, Answer.labelled_subgraph, addSubgraph_labelled]
  | addNode d args label =>
    simp only [answer, Operation.label, Answer.labelled_node, addNode_labelled]
  | addSubgraph d args label =>
    simp only [answer, Operation.label, Answer.labelled_subgraph, addSubgraph_labelled]
  | clear => rfl

/-- The induction over constructions. -/
theorem perform_bare (S : Construction) (g : Graph) :
    g.bare.perform S.bare = ((g.perform S).1.map (·.labelled none), (g.perform S).2.bare) ∧
    g.bare.history (g.bare.operations S.bare) = (g.history (g.operations S)).map Event.bare := by
  induction S generalizing g with
  | done => exact ⟨rfl, rfl⟩
  | step op next ih =>
    obtain ⟨hanswer, happly, hevents⟩ := apply_bare g op
    obtain ⟨hperform, hhistory⟩ := ih (g.answer op) (g.apply op)
    simp only [Construction.bare, perform, operations, history, hanswer, happly, hevents,
      answer_labelled, hperform, hhistory, List.map_cons, List.map_append, and_self]

lemma after_bare (es : List Event) (g : Graph) :
    g.bare.after (es.map Event.bare) = (g.after es).bare := by
  induction es generalizing g with
  | nil => rfl
  | cons e es ih =>
    have hstep : g.bare.afterEvent e.bare = (g.afterEvent e).bare := by
      cases e with
      | cleared => exact clear_bare g
      | added d args label answer => exact congrArg Prod.snd (addNode_bare g d args label)
      | opened s args given => rfl
      | closed s returned answer => rfl
    simp only [after, List.map_cons, List.foldl_cons, hstep] at ih ⊢
    exact ih _

/-! ### Compiling -/

lemma provides_bare (out : Out) : g.bare.provides out = g.provides out := by
  have hnode : g.bare.node? out.node = (g.node? out.node).map (·.bare) := by
    simp only [node?, bare, Array.getElem?_map, Option.map_bind]
    rfl
  unfold provides
  rw [hnode]
  cases g.node? out.node <;> rfl

lemma compileInputs_bare (r : NodeRecord) (inputs : List (String × InputSpec)) :
    g.bare.compileInputs r.bare (bareInputs inputs) = g.compileInputs r inputs := by
  have harg (name : String) (spec : InputSpec) (arg : Arg) :
      g.bare.compileArg r.id name spec.bare arg = g.compileArg r.id name spec arg := by
    cases arg with
    | literal value => rfl
    | connection out =>
      simp only [compileArg, compileConnection, InputSpec.bare, provides_bare]
  induction inputs with
  | nil => rfl
  | cons input inputs ih =>
    simp only [bareInputs, List.map_cons, compileInputs, NodeRecord.bare, harg] at ih ⊢
    simp only [ih]

lemma compileNode_bare (r : NodeRecord) : g.bare.compileNode r.bare =
    (g.compileNode r).map fun entry => (entry.1, { entry.2 with annotations := none }) := by
  have hinputs : g.bare.compileInputs r.bare r.bare.definition.inputs =
      g.compileInputs r r.definition.inputs := compileInputs_bare g r r.definition.inputs
  rw [compileNode, compileNode, hinputs]
  cases g.compileInputs r r.definition.inputs <;> rfl

lemma compile_bare : g.bare.compile = g.compile.map Prompt.bare := by
  have hentries (rs : List NodeRecord) : (rs.map (·.bare)).mapM g.bare.compileNode =
      (rs.mapM g.compileNode).map fun entries => (Prompt.bare ⟨entries⟩).entries := by
    induction rs with
    | nil => rfl
    | cons r rs ih =>
      rw [List.map_cons, List.mapM_cons, List.mapM_cons, compileNode_bare, ih]
      cases g.compileNode r with
      | error e => rfl
      | ok entry => cases rs.mapM g.compileNode <;> rfl
  have hnodes : g.bare.nodes.toList = g.nodes.toList.map (·.bare) := Array.toList_map
  rw [compile, compile, hnodes, hentries]
  cases g.nodes.toList.mapM g.compileNode <;> rfl

/-- Graphs that differ in labels and choices only have the same counter and the same prompt. -/
lemma same_of_bare_eq {g h : Graph} (hgh : g.bare = h.bare) :
    g.nextId = h.nextId ∧ g.compile.map Prompt.bare = h.compile.map Prompt.bare := by
  have hnext : g.bare.nextId = h.bare.nextId := by rw [hgh]
  exact ⟨hnext, by rw [← compile_bare, ← compile_bare, hgh]⟩

/-- **Labels and choices.** Carry out two constructions on empty graphs with one configuration that
differ only in labels and in the choices of inputs, those within build procedures included. All
answers, with the ids and outputs in them, and all that happens inside are the same but for labels
and choices. After every event the counters are the same, and compiling gives the same error, or
prompts that are the same but for annotations. -/
theorem labels_and_choices_inert (config : GraphConfig) (S T : Construction)
    (hST : S.bare = T.bare) :
    let g := empty config
    let es := g.history (g.operations S)
    let fs := g.history (g.operations T)
    (g.perform S).1.map (·.labelled none) = (g.perform T).1.map (·.labelled none) ∧
    es.map Event.bare = fs.map Event.bare ∧
    (∀ n, (g.after (es.take n)).nextId = (g.after (fs.take n)).nextId ∧
      (g.after (es.take n)).compile.map Prompt.bare =
        (g.after (fs.take n)).compile.map Prompt.bare) ∧
    (g.perform S).2.nextId = (g.perform T).2.nextId ∧
    (g.perform S).2.compile.map Prompt.bare = (g.perform T).2.compile.map Prompt.bare := by
  intro g es fs
  -- both runs are, but for what is taken out, the run of one bare construction
  have hg : g.bare = g := empty_bare config
  obtain ⟨hS, hes⟩ := perform_bare S g
  obtain ⟨hT, hfs⟩ := perform_bare T g
  rw [hg, hST] at hS hes
  rw [hg] at hT hfs
  obtain ⟨hanswers, hgraph⟩ := Prod.mk.inj (hS.symm.trans hT)
  have hevents : es.map Event.bare = fs.map Event.bare := hes.symm.trans hfs
  refine ⟨hanswers, hevents, fun n => same_of_bare_eq ?_, same_of_bare_eq hgraph⟩
  rw [← after_bare, ← after_bare, List.map_take, List.map_take, hevents]

/-- A `relay` with a further input that may have choices. -/
def scaler (choices : Option (List Literal)) : NodeDefinition :=
  { relay with
    typeName := "Scaler"
    inputs := [("in", .connection ⟨"image"⟩),
      ("mode", { default := some (.ofString "area"), choices })]
    typeName_notBlank := by decide
    inputs_nodup := show ["in", "mode"].Nodup by decide }

/-- A subgraph of one `scaler`. -/
def scaled (label : Option String) (choices : Option (List Literal)) : SubgraphDefinition :=
  { relayed with
    procedure := fun args => .addNode (scaler choices) args label fun
      | .error e => .fail e
      | .ok handle => .finish (.ofList handle.outputs) }

/-- A `relay`, and a `scaled` that is connected to it. -/
def titledRun (label : Option String) (choices : Option (List Literal)) : Construction :=
  .step (.addNode relay ∅ label) fun
    | some (.ok handle) =>
      .step (.add (.subgraph (scaled label choices)) (.ofList (handle.outputs.map fun o =>
        ("in", Arg.connection o.2))) label) fun _ => .done
    | _ => .done

lemma bare_titledRun (label : Option String) (choices : Option (List Literal)) :
    (titledRun label choices).bare = (titledRun none none).bare := by
  refine congrArg (Construction.step _) (funext fun answer => ?_)
  rcases answer with - | e | handle
  · rfl
  · rfl
  · have hscaled : (scaled label choices).bare = (scaled none none).bare := by
      refine congrArg (SubgraphDefinition.mk _) (funext fun args => ?_)
      refine congrArg (Procedure.addNode _ args none) (funext fun answer => ?_)
      cases answer <;> rfl
    cases handle <;> exact congrArg
      (fun d => Construction.step (.add (.subgraph d) _ none) fun _ => .done) hscaled

theorem titledRun_inert :
    let plain := titledRun none none
    let titled := titledRun (some "Upscale") (some [.ofString "area"])
    let g := empty {}
    titled.bare = plain.bare ∧
    (g.perform titled).2.nodes.toList.map (·.label) = [some "Upscale", some "Upscale"] ∧
    (g.perform plain).2.nodes.toList.map (·.label) = [none, none] ∧
    (g.perform titled).1.map (·.labelled none) = (g.perform plain).1.map (·.labelled none) ∧
    (g.perform titled).2.compile.map Prompt.bare = (g.perform plain).2.compile.map Prompt.bare := by
  have hbare := bare_titledRun (some "Upscale") (some [.ofString "area"])
  obtain ⟨hanswers, -, -, -, hcompile⟩ := labels_and_choices_inert {} _ _ hbare
  exact ⟨hbare, by decide +kernel, by decide +kernel, hanswers, hcompile⟩

end Graph

end PromptGraph
