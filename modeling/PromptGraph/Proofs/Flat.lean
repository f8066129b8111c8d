import PromptGraph.Graph.Listing
import PromptGraph.Proofs.Compile
import PromptGraph.Proofs.Growth

/-!
Every graph is a flat sequence of nodes.

However the nodes of a graph came to be, adding them again one by one, with the arguments that the
graph holds of them, gives the same nodes under the same ids. Subgraphs leave no trace: the
arguments are resolved already and resolve to themselves, and the ids have no gaps.
-/

namespace PromptGraph

namespace NodeRecord

/-- The handle that a node had when it was added. -/
def handle (r : NodeRecord) : NodeHandle where
  id := r.id
  classType := r.definition.typeName
  label := r.label
  outputs := r.definition.outputs.map fun (name, spec) => (name, ⟨spec.kind, r.id, spec.index⟩)

/-- The addition of the node again, with its resolved arguments. -/
def again (r : NodeRecord) : Operation := .addNode r.definition r.args r.label

end NodeRecord

namespace Graph

variable {g h : Graph}

/-- The arguments of all nodes are as resolution leaves them. -/
def Resolved (g : Graph) : Prop :=
  ∀ r ∈ g.nodes, r.args.Complete g.config.strict r.definition.inputs

lemma Resolved.step (hg : g.Resolved) {e : Event} (s : Step g e h) : h.Resolved := by
  obtain ⟨rfl, -⟩ | ⟨-, rfl⟩ | ⟨d, args, given, label, hr, -, -, rfl⟩ := s.effect
  · exact hg
  · simp [Resolved, clear]
  · intro r hmem
    rcases Array.mem_push.1 hmem with hmem | rfl
    · exact hg r hmem
    · exact Args.complete_of_resolve d.inputs_nodup hr

lemma resolved_applyAll (config : GraphConfig) (ops : List Operation) :
    ((empty config).applyAll ops).Resolved :=
  (steps_history ops _).invariant (fun hg s => hg.step s) (by simp [Resolved, empty])

lemma addNode_of_resolve {d : NodeDefinition} {args given : Args}
    (hgiven : args.resolve g.config.strict d.typeName d.inputs = .ok given)
    (hid : g.nextId ≠ lastId) (label : Option String) :
    g.addNode d args label =
      (.ok (NodeRecord.handle ⟨g.nextId, d, label, given⟩), (g.push d given label).2) := by
  simp only [addNode, hgiven, hid, if_false]
  rfl

/-- Nodes with the next ids, whose arguments are resolved, can be added again as they are. -/
lemma history_again (rs : List NodeRecord) (g : Graph)
    (hargs : ∀ r ∈ rs, r.args.Complete g.config.strict r.definition.inputs)
    (hlast : ∀ r ∈ rs, r.id ≠ lastId)
    (hid : ∀ i, ∀ hi : i < rs.length, rs[i].id.toNat = g.nextId.toNat + i) :
    g.history (rs.map (·.again)) =
      rs.map (fun r => .added r.definition r.args r.label (.ok r.handle)) ∧
    Grown g rs (g.applyAll (rs.map (·.again))) := by
  induction rs generalizing g with
  | nil => exact ⟨rfl, .refl g⟩
  | cons r rs ih =>
    obtain ⟨hr, hargs⟩ := List.forall_mem_cons.1 hargs
    obtain ⟨hrlast, hlast⟩ := List.forall_mem_cons.1 hlast
    have hrid : g.nextId = r.id := UInt64.toNat_inj.1 (hid 0 (by simp)).symm
    have hne : g.nextId ≠ lastId := hrid ▸ hrlast
    have hadd := addNode_of_resolve hr.resolve_eq hne r.label
    have hpush := grown_push hne r.definition r.args r.label
    have hrecord : (⟨g.nextId, r.definition, r.label, r.args⟩ : NodeRecord) = r := by rw [hrid]
    rw [hrecord] at hadd hpush
    obtain ⟨hhistory, hgrown⟩ := ih (g.push r.definition r.args r.label).2 hargs hlast
      fun i hi => by
        have := hid (i + 1) (by simpa using hi)
        rw [List.getElem_cons_succ] at this
        rw [push_nextId, toNat_add_one hne]
        omega
    have happly : g.apply r.again = (g.push r.definition r.args r.label).2 := by
      simp only [NodeRecord.again, apply, hadd]
    constructor
    · rw [List.map_cons, List.map_cons, history, happly, hhistory]
      simp only [NodeRecord.again, operationEvents, nodeEvents, hadd, List.singleton_append]
    · rw [List.map_cons, applyAll, List.foldl_cons, happly]
      exact hpush.trans hgrown

/-- Compiling and listing read the nodes and their index only. -/
lemma compile_withConfig (g : Graph) (config : GraphConfig) :
    { g with config }.compile = g.compile := by
  have hfault : { g with config }.fault? = g.fault? := rfl
  rw [compile_eq, compile_eq, firstFault?, firstFault?, hfault]
  rfl

lemma Consistent.withConfig (hg : g.Consistent) {config : GraphConfig}
    (hstart : config.idStart.toNat = g.nextId.toNat - g.size) :
    { g with config }.Consistent where
  size_le := hg.size_le
  id_eq := hg.id_eq
  places_iff := hg.places_iff
  start _ := hstart.symm

lemma toNat_sub_size (hg : g.Consistent) :
    (g.nextId - UInt64.ofNat g.size).toNat = g.nextId.toNat - g.size := by
  have hle := hg.size_le
  have hlt := g.nextId.toNat_lt
  have hsize : (UInt64.ofNat g.size).toNat = g.size :=
    UInt64.toNat_ofNat_of_lt' (Nat.lt_of_le_of_lt hle hlt)
  rw [UInt64.toNat_sub_of_le, hsize]
  rw [UInt64.le_iff_toNat_le]
  omega

/-- **Flat graphs.** Adding the nodes of a graph one by one to an empty graph that starts at their
first id succeeds at every node and gives the same handles, and in the end the same graph, the same
prompt or error, and the same listing. -/
theorem flat_replay (config : GraphConfig) (ops : List Operation) (stableIds : Bool) :
    let g := (empty config).applyAll ops
    let start := g.nextId - UInt64.ofNat g.size
    let h := (empty ⟨start, stableIds, config.strict⟩).applyAll (g.nodes.toList.map (·.again))
    start.toNat = g.nextId.toNat - g.size ∧
    (empty ⟨start, stableIds, config.strict⟩).history (g.nodes.toList.map (·.again)) =
      g.nodes.toList.map (fun r => .added r.definition r.args r.label (.ok r.handle)) ∧
    h.nodes = g.nodes ∧ h.places = g.places ∧ h.nextId = g.nextId ∧
    h.compile = g.compile ∧ h.listing = g.listing := by
  intro g start h
  have hg : g.Consistent := consistent_applyAll config ops
  have hconfig : g.config = config := config_applyAll config ops
  have hstart : start.toNat = g.nextId.toNat - g.size := toNat_sub_size hg
  have hargs : ∀ r ∈ g.nodes.toList, r.args.Complete config.strict r.definition.inputs := by
    have hresolved : g.Resolved := resolved_applyAll config ops
    simpa [Resolved, hconfig] using hresolved
  have hlast : ∀ r ∈ g.nodes.toList, r.id ≠ lastId := by
    intro r hr he
    have hlt := hg.id_lt (Array.mem_toList_iff.1 hr)
    have := g.nextId.toNat_lt
    rw [he] at hlt
    simp only [lastId, UInt64.reduceToNat] at hlt
    omega
  obtain ⟨hhistory, hgrown⟩ := history_again g.nodes.toList
    (empty ⟨start, stableIds, config.strict⟩) hargs hlast fun i hi => by
      have := hg.id_eq i (by simpa using hi)
      simpa [empty, hstart] using this
  -- the new graph is consistent, has the same nodes and counter, and thus the same index
  have heq : h = { g with config := ⟨start, stableIds, config.strict⟩ } := by
    have hnodes : h.nodes.toList = g.nodes.toList := hgrown.nodes_eq
    have hnext : h.nextId.toNat = start.toNat + g.nodes.toList.length := hgrown.nextId_eq
    have hle := hg.size_le
    refine (hg.withConfig hstart).eq_of_nodes_eq (consistent_applyAll _ _) hgrown.config_eq
      (Array.toList_inj.1 hnodes) (UInt64.toNat_inj.1 ?_)
    rw [hstart, Array.length_toList] at hnext
    unfold size at *
    simp only
    omega
  refine ⟨hstart, hhistory, by rw [heq], by rw [heq], by rw [heq], ?_, by rw [heq]; rfl⟩
  rw [heq]
  exact compile_withConfig g _

end Graph

end PromptGraph
