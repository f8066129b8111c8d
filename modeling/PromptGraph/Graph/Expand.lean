import PromptGraph.Graph.Basic

/-!
Expanding subgraphs: running a build procedure against a graph.

An expansion leaves nothing of the subgraph itself in the graph, only the nodes that its procedure
added, and those stay even if the expansion fails. The outputs that the procedure returns have to
be the declared ones, by name and by kind, and are passed on as they are.
-/

namespace PromptGraph

namespace SubgraphOutputs

/-- The names of returned outputs that are not declared, in ascending order. -/
def undeclared (returned : SubgraphOutputs) (declared : List (String × SubgraphOutputSpec)) :
    List String :=
  returned.keys.filter fun name => !declared.any fun output => output.1 == name

/-- The returned outputs in the order in which they are declared. -/
def inOrder (returned : SubgraphOutputs) :
    List (String × SubgraphOutputSpec) → Except OutputMismatch (List (String × Out))
  | [] => .ok []
  | (name, spec) :: declared =>
    match returned[name]? with
    | none => .error (.missing name)
    | some out =>
      if out.kind = spec.kind then (inOrder returned declared).map ((name, out) :: ·)
      else .error (.wrongKind name spec.kind out.kind)

/-- Compares what was returned with what is declared. -/
def verify (returned : SubgraphOutputs) (declared : List (String × SubgraphOutputSpec)) :
    Except OutputMismatch (List (String × Out)) :=
  match returned.undeclared declared with
  | [] => returned.inOrder declared
  | names => .error (.undeclared names)

end SubgraphOutputs

/-- The handle of an expanded subgraph, from what its procedure answered. -/
def Signature.handle (s : Signature SubgraphOutputSpec) (label : Option String)
    (returned : Except BuildError SubgraphOutputs) : Except BuildError SubgraphHandle :=
  match returned with
  | .error e => .error e
  | .ok returned =>
    match SubgraphOutputs.verify returned s.outputs with
    | .error mismatch => .error (.outputMismatch s.typeName mismatch)
    | .ok outputs => .ok ⟨s.typeName, label, outputs⟩

/-- The arguments that a build procedure gets: resolved, and their connections checked. -/
def Signature.admit (s : Signature SubgraphOutputSpec) (strict : Bool) (args : Args) :
    Except BuildError Args := do
  let args ← args.resolve strict s.typeName s.inputs
  args.checkConnections s.typeName s.inputs
  return args

namespace Graph

/-- Runs a build procedure to its end. -/
def run (g : Graph) : Procedure → Except BuildError SubgraphOutputs × Graph
  | .finish outputs => (.ok outputs, g)
  | .fail e => (.error e, g)
  | .addNode d args label next =>
    let (answer, g) := g.addNode d args label
    g.run (next answer)
  | .addSubgraph s build args label next =>
    match s.admit g.config.strict args with
    | .error e => g.run (next (.error e))
    | .ok args =>
      let (returned, g) := g.run (build args)
      g.run (next (s.handle label returned))

def addSubgraph (g : Graph) (d : SubgraphDefinition) (args : Args) (label : Option String) :
    Except BuildError SubgraphHandle × Graph :=
  match d.admit g.config.strict args with
  | .error e => (.error e, g)
  | .ok args =>
    let (returned, g) := g.run (d.procedure args)
    (d.handle label returned, g)

/-- Adds a definition of either variant. -/
def add (g : Graph) (d : Definition) (args : Args) (label : Option String) :
    Except BuildError Handle × Graph :=
  match d with
  | .node d =>
    let (answer, g) := g.addNode d args label
    (answer.map .node, g)
  | .subgraph d =>
    let (answer, g) := g.addSubgraph d args label
    (answer.map .subgraph, g)

end Graph

end PromptGraph
