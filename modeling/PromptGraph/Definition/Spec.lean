import PromptGraph.Json.Reader

/-!
What a definition declares about its inputs and outputs, and how that is written in documents.
-/

namespace PromptGraph

/-- The tag of a kind of connection. Kinds are only compared. -/
structure Kind where
  name : String
deriving DecidableEq

/-- An input of a definition. Without a kind it takes literals only; with one it takes literals
and connections of that kind. -/
structure InputSpec where
  required : Bool := false
  kind : Option Kind := none
  default : Option Literal := none
  choices : Option (List Literal) := none

/-- An output of a node definition: its kind and its place among the outputs of a node. -/
structure OutputSpec where
  kind : Kind
  index : UInt32
deriving DecidableEq

/-- An output of a subgraph definition. Its place is that of the node output it stands for. -/
structure SubgraphOutputSpec where
  kind : Kind
deriving DecidableEq

namespace InputSpec

def scalar : InputSpec := {}

def connection (kind : Kind) : InputSpec := { kind := some kind }

def mandatory (spec : InputSpec) : InputSpec := { spec with required := true }

def withDefault (spec : InputSpec) (value : Literal) : InputSpec :=
  { spec with default := some value }

def withChoices (spec : InputSpec) (values : List Literal) : InputSpec :=
  { spec with choices := some values }

def acceptsConnection (spec : InputSpec) : Bool := spec.kind.isSome

/-- The value is one of the choices, if there are choices. -/
def allows (spec : InputSpec) (value : Literal) : Bool :=
  match spec.choices with
  | none => true
  | some values => values.any (·.agrees value)

end InputSpec

/-! ### Documents -/

open Json

namespace Kind

def read : Reader Kind := fun levels d => (Reader.string levels d).map .mk

def toJson (k : Kind) : Json := .string k.name

end Kind

namespace InputSpec

def record : Record InputSpec where
  name := "InputSpec"
  fields := [
    ⟨"required", false, fun levels d spec => do
      return { spec with required := ← Reader.bool levels d }⟩,
    ⟨"kind", false, fun levels d spec => do
      return { spec with kind := ← Reader.option Kind.read levels d }⟩,
    ⟨"default", false, fun levels d spec => do
      return { spec with default := ← Reader.option Reader.literal levels d }⟩,
    ⟨"enum", false, fun levels d spec => do
      return { spec with choices := ← Reader.option (Reader.list Reader.literal) levels d }⟩]
  start := {}

def read : Reader InputSpec := record.read

def toJson (spec : InputSpec) : Json :=
  .object <|
    [("required", .bool spec.required)] ++
    (spec.kind.map fun k => ("kind", k.toJson)).toList ++
    (spec.default.map fun v => ("default", v.json)).toList ++
    (spec.choices.map fun vs => ("enum", .array (vs.map (·.json)))).toList

end InputSpec

/-- Reads a place among outputs. -/
def Json.Reader.index : Reader UInt32 := fun levels d =>
  (Reader.unsigned 32 levels d).map UInt32.ofNat

namespace OutputSpec

def record : Record OutputSpec where
  name := "OutputSpec"
  fields := [
    ⟨"kind", true, fun levels d spec => do
      return { spec with kind := ← Kind.read levels d }⟩,
    ⟨"index", true, fun levels d spec => do
      return { spec with index := ← Reader.index levels d }⟩]
  start := ⟨⟨""⟩, 0⟩

def read : Reader OutputSpec := record.read

def toJson (spec : OutputSpec) : Json :=
  .object [("kind", spec.kind.toJson), ("index", .number (.ofUInt32 spec.index))]

end OutputSpec

namespace SubgraphOutputSpec

def record : Record SubgraphOutputSpec where
  name := "SubgraphOutputSpec"
  fields := [
    ⟨"kind", true, fun levels d _ => do return ⟨← Kind.read levels d⟩⟩]
  start := ⟨⟨""⟩⟩

def read : Reader SubgraphOutputSpec := record.read

def toJson (spec : SubgraphOutputSpec) : Json := .object [("kind", spec.kind.toJson)]

end SubgraphOutputSpec

end PromptGraph
