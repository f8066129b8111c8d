import PromptGraph.Catalog.Basic
import PromptGraph.StableSort

/-!
Catalogs of node definitions read from documents.

A document maps type names to inputs and outputs by name. The definitions are registered in the
order of their type names; inputs are declared in the order of their names, outputs in the order of
their places.
-/

namespace PromptGraph

open Json

/-- What a catalog document says of one type. -/
structure NodeDocument where
  inputs : NameMap InputSpec
  outputs : NameMap OutputSpec

namespace NodeDocument

def record : Record NodeDocument where
  name := "RawNodeDefinition"
  fields := [
    ⟨"inputs", false, fun levels d doc => do
      return { doc with inputs := ← Reader.nameMap InputSpec.read levels d }⟩,
    ⟨"outputs", false, fun levels d doc => do
      return { doc with outputs := ← Reader.nameMap OutputSpec.read levels d }⟩]
  start := ⟨∅, ∅⟩

/-- The outputs in the order of their places, and those of one place in the order of names. -/
def orderedOutputs (doc : NodeDocument) : List (String × OutputSpec) :=
  sortOn (fun o => o.2.index.toNat) doc.outputs.toList

def build (typeName : String) (doc : NodeDocument) : Except DefinitionError NodeDefinition :=
  NodeDefinition.build typeName doc.inputs.toList doc.orderedOutputs

end NodeDocument

namespace Catalog

/-- The types of a catalog document. -/
def readDocument : Reader (NameMap NodeDocument) := Reader.nameMap NodeDocument.record.read

/-- Builds and registers the types of a document, up to the first that fails. -/
def ofDocument (types : NameMap NodeDocument) : Except DefinitionError Catalog :=
  types.toList.foldlM (fun c (typeName, doc) => do
    let d ← doc.build typeName
    c.extended (.node d)) empty

def ofText (text : String) : Except DefinitionError Catalog :=
  match readDocument.ofText text with
  | .ok types => ofDocument types
  | .error e => .error (.malformedCatalog e)

/-- The catalog of a file at `path`, given what reading the file gave. -/
def ofFile (path : String) (content : Except FileFault String) : Except DefinitionError Catalog :=
  match content with
  | .ok text => ofText text
  | .error fault => .error (.unreadableCatalog path fault)

end Catalog

end PromptGraph
