import PromptGraph.Graph.Error

/-!
Handles: what a caller holds of something that was added to a graph.

The handle of a node names the node; the handle of a subgraph only shows the outputs of nodes that
the subgraph was expanded to.
-/

namespace PromptGraph

structure NodeHandle where
  id : NodeId
  classType : String
  label : Option String
  outputs : List (String × Out)
deriving DecidableEq

structure SubgraphHandle where
  typeName : String
  label : Option String
  outputs : List (String × Out)
deriving DecidableEq

inductive Handle where
  | node (handle : NodeHandle)
  | subgraph (handle : SubgraphHandle)
deriving DecidableEq

/-- The output of a name among the outputs of a handle. -/
def findOut (typeName : String) (outputs : List (String × Out)) (name : String) :
    Except BuildError Out :=
  match outputs.lookup name with
  | some out => .ok out
  | none => .error (.unknownOutput typeName name)

def NodeHandle.out (h : NodeHandle) (name : String) : Except BuildError Out :=
  findOut h.classType h.outputs name

def SubgraphHandle.out (h : SubgraphHandle) (name : String) : Except BuildError Out :=
  findOut h.typeName h.outputs name

namespace Handle

def outputs : Handle → List (String × Out)
  | .node h => h.outputs
  | .subgraph h => h.outputs

def label : Handle → Option String
  | .node h => h.label
  | .subgraph h => h.label

def out : Handle → String → Except BuildError Out
  | .node h => h.out
  | .subgraph h => h.out

def node? : Handle → Option NodeHandle
  | .node h => some h
  | .subgraph _ => none

def subgraph? : Handle → Option SubgraphHandle
  | .node _ => none
  | .subgraph h => some h

end Handle

end PromptGraph
