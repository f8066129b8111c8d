import PromptGraph.Definition.Clash
import PromptGraph.Definition.Error
import PromptGraph.Definition.Spec
import PromptGraph.Text.Blank

/-!
Signatures: the type name of a definition with its inputs and outputs in the order in which they
are declared.

A signature is well formed by construction: its name is not blank, and the names of its inputs and
of its outputs are distinct. In a node definition the places of the outputs are distinct too.
-/

namespace PromptGraph

/-- The declared interface of a definition, whose outputs are described by `σ`. -/
structure Signature (σ : Type) where
  typeName : String
  inputs : List (String × InputSpec)
  outputs : List (String × σ)
  typeName_notBlank : Blank.isBlank typeName = false
  inputs_nodup : (inputs.map Prod.fst).Nodup
  outputs_nodup : (outputs.map Prod.fst).Nodup

namespace Signature

variable {σ : Type}

def input? (s : Signature σ) (name : String) : Option InputSpec := s.inputs.lookup name

def output? (s : Signature σ) (name : String) : Option σ := s.outputs.lookup name

/-- The names of the inputs, in order. -/
def inputNames (s : Signature σ) : List String := s.inputs.map Prod.fst

/-- Checks the name, then the inputs, then the outputs. -/
def build (typeName : String) (inputs : List (String × InputSpec)) (outputs : List (String × σ)) :
    Except DefinitionError (Signature σ) :=
  match hn : Blank.isBlank typeName with
  | true => .error .emptyTypeName
  | false =>
    match hi : clash? Prod.fst inputs with
    | some (_, again) => .error (.duplicateInput typeName again.1)
    | none =>
      match ho : clash? Prod.fst outputs with
      | some (_, again) => .error (.duplicateOutput typeName again.1)
      | none => .ok ⟨typeName, inputs, outputs, hn, clash?_eq_none_iff.1 hi,
          clash?_eq_none_iff.1 ho⟩

end Signature

/-- A primitive kind of node: what the engine calls it, its inputs, and its outputs with their
places. -/
structure NodeDefinition extends Signature OutputSpec where
  indexes_nodup : (outputs.map fun o => o.2.index).Nodup

namespace NodeDefinition

/-- The output at a place. -/
def outputAt? (d : NodeDefinition) (index : UInt32) : Option (String × OutputSpec) :=
  d.outputs.find? fun o => o.2.index == index

/-- Checks the signature, then the places of the outputs. -/
def build (typeName : String) (inputs : List (String × InputSpec))
    (outputs : List (String × OutputSpec)) : Except DefinitionError NodeDefinition :=
  match Signature.build typeName inputs outputs with
  | .error e => .error e
  | .ok s =>
    match h : clash? (fun o => o.2.index) s.outputs with
    | some (first, second) =>
      .error (.duplicateOutputIndex typeName second.2.index first.1 second.1)
    | none => .ok ⟨s, clash?_eq_none_iff.1 h⟩

end NodeDefinition

end PromptGraph
