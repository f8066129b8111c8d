import PromptGraph.Definition.Error
import PromptGraph.Graph.Arg

/-!
What can go wrong while nodes and subgraphs are added to a graph, and while it is compiled.
-/

namespace PromptGraph

/-- The two variants of definitions. -/
inductive Variant where
  | node
  | subgraph
deriving DecidableEq, Repr

def Variant.text : Variant → String
  | .node => "node"
  | .subgraph => "subgraph"

/-- What is wrong with the outputs that a build procedure returned. -/
inductive OutputMismatch where
  | undeclared (names : List String)
  | missing (name : String)
  | wrongKind (name : String) (declared returned : Kind)

def OutputMismatch.message : OutputMismatch → String
  | .undeclared names =>
    let listed := ", ".intercalate names
    s!"undeclared outputs returned: {listed}"
  | .missing name => s!"declared output '{name}' was not returned"
  | .wrongKind name declared returned =>
    s!"output '{name}' is declared as {declared.name} but the build returned {returned.name}"

inductive BuildError where
  | definition (error : DefinitionError)
  | unknownDefinition (name : String)
  | wrongVariant (name : String) (expected found : Variant)
  | missingRequiredInput (typeName input : String)
  | unknownInput (typeName input : String) (declared : List String)
  | unknownOutput (typeName output : String)
  | outputMismatch (typeName : String) (mismatch : OutputMismatch)
  | argumentKindMismatch (typeName input : String) (expected found : Kind)
  | unexpectedConnection (typeName input : String)
  | idSpaceExhausted (id : NodeId)

def BuildError.message : BuildError → String
  | .definition error => error.message
  | .unknownDefinition name => s!"No definition named '{name}' is registered"
  | .wrongVariant name expected found =>
    s!"Definition '{name}' is a {found.text}, not a {expected.text}"
  | .missingRequiredInput typeName input => s!"Missing required input '{input}' for '{typeName}'"
  | .unknownInput typeName input declared =>
    let listed := ", ".intercalate declared
    s!"'{typeName}' has no input named '{input}' (declared: {listed})"
  | .unknownOutput typeName output => s!"'{typeName}' has no output named '{output}'"
  | .outputMismatch typeName mismatch =>
    s!"Subgraph '{typeName}' returned malformed outputs: {mismatch.message}"
  | .argumentKindMismatch typeName input expected found =>
    s!"Kind mismatch on input '{input}' of '{typeName}': " ++
      s!"expected {expected.name}, got {found.name}"
  | .unexpectedConnection typeName input =>
    s!"Input '{input}' of '{typeName}' only accepts literal values, but a connection was given"
  | .idSpaceExhausted id => s!"Node id space is exhausted at {id}"

inductive CompileError where
  | kindMismatch (node : NodeId) (input : String) (expected found : Kind)
  | danglingReference (node : NodeId) (input : String) (producer : NodeId) (index : UInt32)
  | unexpectedConnection (node : NodeId) (input : String)
deriving DecidableEq

def CompileError.message : CompileError → String
  | .kindMismatch node input expected found =>
    s!"Kind mismatch on input '{input}' of node {node}: " ++
      s!"expected {expected.name}, got {found.name}"
  | .danglingReference node input producer index =>
    s!"Input '{input}' of node {node} references output {index} of node {producer}, " ++
      "which is not part of this graph"
  | .unexpectedConnection node input =>
    s!"Input '{input}' of node {node} only accepts literal values, but a connection was given"

end PromptGraph
