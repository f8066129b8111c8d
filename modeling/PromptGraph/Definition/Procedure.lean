import PromptGraph.Definition.Signature
import PromptGraph.Graph.Handle

/-!
Build procedures, and the definitions of subgraphs that have one.

A procedure adds nodes and subgraphs one after the other, each with its answer in view, until it
returns named outputs or fails. An error of an addition is an answer like any other, so a
procedure may go on after it.
-/

namespace PromptGraph

/-- The outputs that a build procedure returns, by name. -/
abbrev SubgraphOutputs := NameMap Out

inductive Procedure where
  | finish (outputs : SubgraphOutputs)
  | fail (error : BuildError)
  | addNode (definition : NodeDefinition) (args : Args) (label : Option String)
      (next : Except BuildError NodeHandle → Procedure)
  | addSubgraph (signature : Signature SubgraphOutputSpec) (build : Args → Procedure)
      (args : Args) (label : Option String)
      (next : Except BuildError SubgraphHandle → Procedure)

/-- A reusable composition of nodes: its interface, and how it is built from its arguments. -/
structure SubgraphDefinition extends Signature SubgraphOutputSpec where
  procedure : Args → Procedure

namespace SubgraphDefinition

def build (typeName : String) (inputs : List (String × InputSpec))
    (outputs : List (String × SubgraphOutputSpec)) (procedure : Args → Procedure) :
    Except DefinitionError SubgraphDefinition :=
  (Signature.build typeName inputs outputs).map fun s => ⟨s, procedure⟩

end SubgraphDefinition

inductive Definition where
  | node (definition : NodeDefinition)
  | subgraph (definition : SubgraphDefinition)

namespace Definition

def typeName : Definition → String
  | .node d => d.typeName
  | .subgraph d => d.typeName

def inputs : Definition → List (String × InputSpec)
  | .node d => d.inputs
  | .subgraph d => d.inputs

def input? : Definition → String → Option InputSpec
  | .node d => d.input?
  | .subgraph d => d.input?

def variant : Definition → Variant
  | .node _ => .node
  | .subgraph _ => .subgraph

end Definition

/-- Adds a definition of either variant. -/
def Procedure.add (definition : Definition) (args : Args) (label : Option String)
    (next : Except BuildError Handle → Procedure) : Procedure :=
  match definition with
  | .node d => .addNode d args label fun r => next (r.map .node)
  | .subgraph d => .addSubgraph d.toSignature d.procedure args label fun r =>
      next (r.map .subgraph)

end PromptGraph
