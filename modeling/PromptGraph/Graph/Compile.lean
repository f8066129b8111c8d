import PromptGraph.Graph.Expand
import PromptGraph.Prompt.Basic

/-!
Compiling a graph into a prompt.

The nodes become entries in the order of the graph, their inputs in the order of the declarations.
A connection becomes a pair of the producer's id as a decimal string and the place of the output,
once it is clear that the kinds agree and that the graph has such an output.
-/

namespace PromptGraph.Graph

/-- The pair that stands for a connection. -/
def reference (out : Out) : Literal where
  json := .array [.string (toString out.node), .number (.ofUInt32 out.index)]
  normal := ⟨trivial, trivial, trivial⟩

/-- The graph has a node with the id of `out` that declares an output of its kind at its place. -/
def provides (g : Graph) (out : Out) : Bool :=
  match (g.node? out.node).bind (·.definition.outputAt? out.index) with
  | some (_, spec) => spec.kind = out.kind
  | none => false

/-- The value of an input that is connected to `out`. -/
def compileConnection (g : Graph) (node : NodeId) (input : String) (spec : InputSpec) (out : Out) :
    Except CompileError Literal :=
  match spec.kind with
  | none => .error (.unexpectedConnection node input)
  | some kind =>
    if out.kind ≠ kind then .error (.kindMismatch node input kind out.kind)
    else if g.provides out then .ok (reference out)
    else .error (.danglingReference node input out.node out.index)

def compileArg (g : Graph) (node : NodeId) (input : String) (spec : InputSpec) :
    Arg → Except CompileError Literal
  | .literal value => .ok value
  | .connection out => g.compileConnection node input spec out

/-- The inputs of a node that have an argument, with their values. -/
def compileInputs (g : Graph) (r : NodeRecord) :
    List (String × InputSpec) → Except CompileError (List (String × Literal))
  | [] => .ok []
  | (name, spec) :: inputs =>
    match r.args[name]? with
    | none => g.compileInputs r inputs
    | some arg => do
      let value ← g.compileArg r.id name spec arg
      let rest ← g.compileInputs r inputs
      return (name, value) :: rest

def compileNode (g : Graph) (r : NodeRecord) : Except CompileError (NodeId × PromptEntry) := do
  let inputs ← g.compileInputs r r.definition.inputs
  return (r.id, ⟨r.definition.typeName, Std.ExtTreeMap.ofList inputs,
    r.label.map fun title => ⟨some title⟩⟩)

/-- The whole prompt, or the first error. -/
def compile (g : Graph) : Except CompileError Prompt :=
  (g.nodes.toList.mapM g.compileNode).map .mk

end PromptGraph.Graph
