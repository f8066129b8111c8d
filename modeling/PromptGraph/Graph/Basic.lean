import PromptGraph.Definition.Procedure
import PromptGraph.Graph.Resolve

/-!
Graphs of nodes under construction.

A graph lists its nodes in the order in which they were added, keeps an index from ids to places in
the list, and counts up the ids that it hands out. The last id is never handed out: a counter that
has reached it is exhausted.
-/

namespace PromptGraph

structure GraphConfig where
  /-- The first id. -/
  idStart : NodeId := 1
  /-- Start again from the first id when the graph is cleared. -/
  stableIds : Bool := true
  /-- Refuse arguments that are not declared and required inputs without a value. -/
  strict : Bool := true
deriving DecidableEq

/-- A node of a graph, with its arguments resolved. -/
structure NodeRecord where
  id : NodeId
  definition : NodeDefinition
  label : Option String
  args : Args

structure Graph where
  config : GraphConfig
  nodes : Array NodeRecord
  places : Std.ExtTreeMap NodeId Nat
  nextId : NodeId

namespace Graph

/-- The id that is never handed out. -/
def lastId : NodeId := 18446744073709551615

def empty (config : GraphConfig) : Graph := ⟨config, #[], ∅, config.idStart⟩

/-- Removes every node. The ids start again or go on, as the configuration has it. -/
def clear (g : Graph) : Graph :=
  { g with
    nodes := #[]
    places := ∅
    nextId := if g.config.stableIds then g.config.idStart else g.nextId }

def size (g : Graph) : Nat := g.nodes.size

def node? (g : Graph) (id : NodeId) : Option NodeRecord :=
  g.places[id]?.bind fun place => g.nodes[place]?

/-- The graph with one more node, and the handle of that node. -/
def push (g : Graph) (d : NodeDefinition) (args : Args) (label : Option String) :
    NodeHandle × Graph :=
  let id := g.nextId
  let outputs := d.outputs.map fun (name, spec) => (name, ⟨spec.kind, id, spec.index⟩)
  (⟨id, d.typeName, label, outputs⟩,
    { g with
      nodes := g.nodes.push ⟨id, d, label, args⟩
      places := g.places.insert id g.nodes.size
      nextId := id + 1 })

/-- Adds a node, if its arguments resolve and there is an id left. -/
def addNode (g : Graph) (d : NodeDefinition) (args : Args) (label : Option String) :
    Except BuildError NodeHandle × Graph :=
  match args.resolve g.config.strict d.typeName d.inputs with
  | .error e => (.error e, g)
  | .ok args =>
    if g.nextId = lastId then (.error (.idSpaceExhausted g.nextId), g)
    else
      let (handle, g) := g.push d args label
      (.ok handle, g)

end Graph

/-! ### Documents -/

open Json

namespace GraphConfig

def record : Record GraphConfig where
  name := "GraphBuilderConfig"
  fields := [
    ⟨"id_start", false, fun levels d config => do
      return { config with idStart := UInt64.ofNat (← Reader.unsigned 64 levels d) }⟩,
    ⟨"stable_ids", false, fun levels d config => do
      return { config with stableIds := ← Reader.bool levels d }⟩,
    ⟨"strict", false, fun levels d config => do
      return { config with strict := ← Reader.bool levels d }⟩]
  start := {}

def read : Reader GraphConfig := record.read

end GraphConfig

end PromptGraph
