import PromptGraph.Graph.Expand

/-!
The text listing of a graph: for every node a line of its own and a line per recorded argument.
-/

namespace PromptGraph

namespace NodeRecord

def headline (r : NodeRecord) : String :=
  let title := match r.label with
    | some label => s!" \"{label}\""
    | none => ""
  s!"#{r.id} {r.definition.typeName}{title}"

def argLine (name : String) : Arg → String
  | .literal value => s!"{name} = {value.text}"
  | .connection out => s!"{name} <- {out.text}"

/-- The recorded arguments in the order of the declarations. -/
def argLines (r : NodeRecord) : List String :=
  r.definition.inputs.filterMap fun (name, _) => r.args[name]?.map (argLine name)

/-- Puts a branch before every line; the last one closes. -/
def branches : List String → List String
  | [] => []
  | [line] => ["└── " ++ line]
  | line :: lines => ("├── " ++ line) :: branches lines

def listing (r : NodeRecord) : List String := r.headline :: branches r.argLines

end NodeRecord

/-- The lines of all nodes in order, each ended by a line break. -/
def Graph.listing (g : Graph) : String :=
  String.join ((g.nodes.toList.flatMap (·.listing)).map (· ++ "\n"))

end PromptGraph
