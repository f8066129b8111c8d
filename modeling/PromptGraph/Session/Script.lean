import PromptGraph.Catalog.Basic

/-!
Scripts: build procedures written down as steps.

A step adds a definition of a catalog or tries one out, and may depend on whether the subgraph was
given some argument. Steps refer to the handles of earlier ones by name.
-/

namespace PromptGraph.Script

/-- An argument, as a script or a session states it. -/
inductive Term where
  | literal (value : Literal)
  /-- An output of a named handle. -/
  | output (handle name : String)
  /-- The subgraph's own argument, if it has one. -/
  | passed (input : String)
  /-- The literal of the subgraph's own argument, or null. -/
  | passedLiteral (input : String)
  /-- The connection of the subgraph's own argument, which must be one. -/
  | passedConnection (input : String)

/-- What terms refer to: handles, and the subgraph that is being built. -/
structure Scope where
  handles : NameMap Handle
  typeName : String
  args : Args

def Term.eval (s : Scope) : Term → Except BuildError (Option Arg)
  | .literal value => .ok (some (.literal value))
  | .output handle name =>
    match s.handles[handle]? with
    | some h => (h.out name).map fun out => some (.connection out)
    | none => .error (.unknownOutput handle name)
  | .passed input => .ok s.args[input]?
  | .passedLiteral input => .ok (some (.literal ((s.args.literal? input).getD .null)))
  | .passedConnection input =>
    match s.args.connection? input with
    | some out => .ok (some (.connection out))
    | none => .error (.missingRequiredInput s.typeName input)

/-- The arguments that named terms give, in order: a later one under a name replaces an earlier
one. -/
def evalArgs (s : Scope) (terms : List (String × Term)) : Except BuildError Args :=
  terms.foldlM (fun args (name, term) => do
    match ← term.eval s with
    | some arg => return args.insert name arg
    | none => return args) ∅

/-- The connections among named terms. -/
def evalOutputs (s : Scope) (terms : List (String × Term)) : Except BuildError SubgraphOutputs :=
  terms.foldlM (fun outputs (name, term) => do
    match ← term.eval s with
    | some (.connection out) => return outputs.insert name out
    | _ => return outputs) ∅

/-- Which variant of definition is looked for. -/
inductive Route where
  | any
  | node
  | subgraph
deriving DecidableEq, Repr

def Route.find (route : Route) (c : Catalog) (name : String) : Except BuildError Definition :=
  match route with
  | .any => c.get name
  | .node => (c.node name).map .node
  | .subgraph => (c.subgraph name).map .subgraph

/-- The parts of a node definition, before they are checked. -/
structure NodeDraft where
  typeName : String
  inputs : List (String × InputSpec)
  outputs : List (String × OutputSpec)

def NodeDraft.build (d : NodeDraft) : Except DefinitionError NodeDefinition :=
  NodeDefinition.build d.typeName d.inputs d.outputs

/-- The addition of a definition, whose handle is kept under a name. -/
structure Addition where
  definition : String
  route : Route
  args : List (String × Term)
  label : Option String
  handle : String

inductive Action where
  | tryOut (draft : NodeDraft)
  | add (addition : Addition)

structure Step where
  /-- The argument without which the step is left out. -/
  needs : Option String
  /-- The argument with which the step is left out. -/
  excludes : Option String
  action : Action

def Step.applies (step : Step) (args : Args) : Bool :=
  step.needs.all (args.contains ·) && step.excludes.all (!args.contains ·)

/-- The procedure of the steps that are left. -/
def runSteps (c : Catalog) (typeName : String) (returns : List (String × Term)) (args : Args) :
    NameMap Handle → List Step → Procedure
  | handles, [] =>
    match evalOutputs ⟨handles, typeName, args⟩ returns with
    | .ok outputs => .finish outputs
    | .error e => .fail e
  | handles, step :: steps =>
    if step.applies args then
      match step.action with
      | .tryOut draft =>
        match draft.build with
        | .ok _ => runSteps c typeName returns args handles steps
        | .error e => .fail (.definition e)
      | .add a =>
        match evalArgs ⟨handles, typeName, args⟩ a.args with
        | .error e => .fail e
        | .ok given =>
          match a.route.find c a.definition with
          | .error e => .fail e
          | .ok d => .add d given a.label fun
            | .ok h => runSteps c typeName returns args (handles.insert a.handle h) steps
            | .error e => .fail e
    else runSteps c typeName returns args handles steps

/-- The parts of a subgraph definition whose procedure is a script. -/
structure SubgraphDraft where
  typeName : String
  inputs : List (String × InputSpec)
  outputs : List (String × SubgraphOutputSpec)
  steps : List Step
  returns : List (String × Term)

/-- The definition as it stands with a catalog and with the handles there are. -/
def SubgraphDraft.build (d : SubgraphDraft) (c : Catalog) (handles : NameMap Handle) :
    Except DefinitionError SubgraphDefinition :=
  SubgraphDefinition.build d.typeName d.inputs d.outputs fun args =>
    runSteps c d.typeName d.returns args handles d.steps

end PromptGraph.Script
