import PromptGraph.Definition.Procedure

/-!
Catalogs: the definitions known by their type names.

A catalog lists its definitions in the order in which they were registered, and an index gives the
place of each name in the list.
-/

namespace PromptGraph

structure Catalog where
  definitions : Array Definition
  places : NameMap Nat

namespace Catalog

def empty : Catalog := ⟨#[], ∅⟩

/-- Adds a definition whose type name is new. Otherwise the catalog stays as it is. -/
def register (c : Catalog) (d : Definition) : Except DefinitionError Unit × Catalog :=
  if c.places.contains d.typeName then (.error (.duplicateDefinition d.typeName), c)
  else (.ok (), ⟨c.definitions.push d, c.places.insert d.typeName c.definitions.size⟩)

/-- The catalog with one more definition. -/
def extended (c : Catalog) (d : Definition) : Except DefinitionError Catalog :=
  match c.register d with
  | (.ok (), c) => .ok c
  | (.error e, _) => .error e

def find? (c : Catalog) (name : String) : Option Definition :=
  c.places[name]?.bind fun place => c.definitions[place]?

def contains (c : Catalog) (name : String) : Bool := c.places.contains name

def get (c : Catalog) (name : String) : Except BuildError Definition :=
  match c.find? name with
  | some d => .ok d
  | none => .error (.unknownDefinition name)

def node (c : Catalog) (name : String) : Except BuildError NodeDefinition := do
  match ← c.get name with
  | .node d => .ok d
  | .subgraph _ => .error (.wrongVariant name .node .subgraph)

def subgraph (c : Catalog) (name : String) : Except BuildError SubgraphDefinition := do
  match ← c.get name with
  | .subgraph d => .ok d
  | .node _ => .error (.wrongVariant name .subgraph .node)

def toList (c : Catalog) : List Definition := c.definitions.toList

end Catalog

end PromptGraph
