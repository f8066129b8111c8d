import PromptGraph.File.Fault
import PromptGraph.Json.Reader

/-!
What can be wrong with a definition or with a catalog.
-/

namespace PromptGraph

inductive DefinitionError where
  | emptyTypeName
  | duplicateInput (typeName name : String)
  | duplicateOutput (typeName name : String)
  | duplicateOutputIndex (typeName : String) (index : UInt32) (first second : String)
  | duplicateDefinition (typeName : String)
  | unreadableCatalog (path : String) (fault : FileFault)
  | malformedCatalog (error : Json.DocumentError)

def DefinitionError.message : DefinitionError → String
  | .emptyTypeName => "Definition type name must not be empty"
  | .duplicateInput typeName name =>
    s!"Definition '{typeName}' declares input '{name}' more than once"
  | .duplicateOutput typeName name =>
    s!"Definition '{typeName}' declares output '{name}' more than once"
  | .duplicateOutputIndex typeName index first second =>
    s!"Definition '{typeName}' assigns output index {index} to both '{first}' and '{second}'"
  | .duplicateDefinition typeName =>
    s!"Catalog already contains a definition named '{typeName}'"
  | .unreadableCatalog path fault =>
    s!"Failed to parse definition catalog: Could not read '{path}': {fault.reason}"
  | .malformedCatalog error => s!"Failed to parse definition catalog: {error.message}"

/-- The message without the position in the document. -/
def DefinitionError.summary : DefinitionError → String
  | .malformedCatalog error => s!"Failed to parse definition catalog: {error.summary}"
  | e => e.message

end PromptGraph
