import PromptGraph.Proofs.Flat
import PromptGraph.Proofs.ShiftedPrompt

/-!
What a graph records of the arguments of its nodes.

The arguments of a node are resolved before the node is there, and nothing changes them later. So
compiling finds an argument only where an input is declared, and finds one wherever there is a
default or, in a strict graph, one is required. It can take the arguments as they are.
-/

namespace PromptGraph

namespace NodeRecord

/-- The arguments of a node fit its definition: they are for declared inputs, and no input with a
default is without one, nor a required input of a strict graph. -/
structure Fitting (strict : Bool) (r : NodeRecord) : Prop where
  declared : ∀ name : String, name ∈ r.args → ∃ input ∈ r.definition.inputs, input.1 = name
  defaulted : ∀ input ∈ r.definition.inputs, input.2.default.isSome → input.1 ∈ r.args
  required : strict = true →
    ∀ input ∈ r.definition.inputs, input.2.required = true → input.1 ∈ r.args

/-- An entry under an id has exactly the inputs for which a node has arguments, with all defaults
and, in a strict graph, all required inputs among them. -/
structure Carries (strict : Bool) (r : NodeRecord) (id : NodeId) (entry : PromptEntry) : Prop where
  id_eq : id = r.id
  mem_inputs_iff : ∀ name : String, name ∈ entry.inputs ↔ name ∈ r.args
  defaulted : ∀ input ∈ r.definition.inputs, input.2.default.isSome → input.1 ∈ entry.inputs
  required : strict = true →
    ∀ input ∈ r.definition.inputs, input.2.required = true → input.1 ∈ entry.inputs

variable {r : NodeRecord} {strict : Bool}

lemma fitting_of_complete (h : r.args.Complete strict r.definition.inputs) : r.Fitting strict where
  declared name hname := by simpa [Args.isDeclared] using h.declared name hname
  defaulted input hinput hdefault := by
    refine (h.covered input hinput).resolve_right ?_
    rintro ⟨hnone, -⟩
    simp [hnone] at hdefault
  required hstrict input hinput hrequired := by
    refine (h.covered input hinput).resolve_right ?_
    rintro ⟨-, hoptional⟩
    simp [hrequired, hstrict] at hoptional

/-- What is not declared would be passed over in the entry, but arguments that fit are declared. -/
lemma Fitting.mem_entry_inputs (h : r.Fitting strict) (name : String) :
    name ∈ r.entry.inputs ↔ name ∈ r.args := by
  rw [Std.ExtTreeMap.mem_iff_isSome_getElem?, getElem?_entry_inputs,
    Std.ExtTreeMap.mem_iff_isSome_getElem?]
  cases harg : r.args[name]? with
  | none => simp
  | some arg =>
    have hname : name ∈ r.args := by simp [Std.ExtTreeMap.mem_iff_isSome_getElem?, harg]
    have hlookup : (r.definition.inputs.lookup name).isSome := by
      rw [← Args.isDeclared_eq_isSome_lookup]
      simpa [Args.isDeclared] using h.declared name hname
    obtain ⟨spec, hspec⟩ := Option.isSome_iff_exists.1 hlookup
    simp [hspec]

lemma Fitting.carries_entry (h : r.Fitting strict) : r.Carries strict r.id r.entry where
  id_eq := rfl
  mem_inputs_iff := h.mem_entry_inputs
  defaulted input hinput hdefault :=
    (h.mem_entry_inputs _).2 (h.defaulted input hinput hdefault)
  required hstrict input hinput hrequired :=
    (h.mem_entry_inputs _).2 (h.required hstrict input hinput hrequired)

end NodeRecord

namespace Graph

/-- **Recorded arguments.** Whatever has been done to a graph, the arguments of all its nodes fit
their definitions. So if it compiles, the entry of a node has exactly the inputs that the node has
arguments for: nothing is left out, and neither a default nor a required input is missing. -/
theorem recorded_args_complete (config : GraphConfig) (ops : List Operation) :
    let g := (empty config).applyAll ops
    (∀ r ∈ g.nodes, r.Fitting config.strict) ∧
    (∀ p, g.compile = .ok p →
      List.Forall₂ (fun r (id, entry) => r.Carries config.strict id entry)
        g.nodes.toList p.entries) := by
  intro g
  have hfitting : ∀ r ∈ g.nodes, r.Fitting config.strict := by
    have hconfig : g.config = config := config_applyAll config ops
    have hresolved : g.Resolved := resolved_applyAll config ops
    intro r hr
    exact NodeRecord.fitting_of_complete (hconfig ▸ hresolved r hr)
  refine ⟨hfitting, fun p hp => ?_⟩
  obtain ⟨-, rfl⟩ := okUnless_eq_ok_iff.1 (compile_eq g ▸ hp)
  rw [document, List.forall₂_map_right_iff, List.forall₂_same]
  exact fun r hr => (hfitting r (Array.mem_toList_iff.1 hr)).carries_entry

end Graph

end PromptGraph
