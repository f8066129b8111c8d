import PromptGraph.Proofs.Events
import PromptGraph.Proofs.Indexed

/-!
The ids of the nodes of a graph and the index of their places.

The nodes have consecutive ids, the last of them just below the counter, and the index holds
every id with its place and nothing else. The index is thus a way to look up a node by its id.
-/

namespace PromptGraph.Graph

/-- The nodes, the index and the counter of a graph agree. -/
structure Consistent (g : Graph) : Prop where
  size_le : g.size ≤ g.nextId.toNat
  id_eq : ∀ i (hi : i < g.nodes.size), g.nodes[i].id.toNat = g.nextId.toNat - g.size + i
  places_iff : ∀ id i, g.places[id]? = some i ↔ ∃ hi : i < g.nodes.size, g.nodes[i].id = id
  start : g.config.stableIds → g.nextId.toNat - g.size = g.config.idStart.toNat

variable {g h : Graph}

lemma consistent_empty (config : GraphConfig) : (empty config).Consistent where
  size_le := Nat.zero_le _
  id_eq i hi := absurd hi (by simp [empty])
  places_iff id i := by simp [empty]
  start _ := rfl

lemma consistent_clear (g : Graph) : g.clear.Consistent where
  size_le := Nat.zero_le _
  id_eq i hi := absurd hi (by simp [clear])
  places_iff id i := by simp [clear]
  start hs := by
    have hs : g.config.stableIds = true := hs
    simp [clear, size, hs]

lemma toNat_add_one {id : NodeId} (hid : id ≠ lastId) : (id + 1).toNat = id.toNat + 1 := by
  have hne : id.toNat ≠ 18446744073709551615 := fun he =>
    hid (UInt64.toNat_inj.1 (by simpa [lastId] using he))
  have hlt := id.toNat_lt
  rw [UInt64.toNat_add, UInt64.toNat_one, Nat.mod_eq_of_lt (by omega)]

section push

variable (g : Graph) (d : NodeDefinition) (args : Args) (label : Option String)

@[simp] lemma push_nodes :
    (g.push d args label).2.nodes = g.nodes.push ⟨g.nextId, d, label, args⟩ := rfl

@[simp] lemma push_places :
    (g.push d args label).2.places = g.places.insert g.nextId g.nodes.size := rfl

@[simp] lemma push_nextId : (g.push d args label).2.nextId = g.nextId + 1 := rfl

@[simp] lemma push_config : (g.push d args label).2.config = g.config := rfl

@[simp] lemma push_size : (g.push d args label).2.size = g.size + 1 := Array.size_push _

end push

namespace Consistent

/-- Every id that is in use lies below the counter. -/
lemma id_lt (hg : g.Consistent) {r : NodeRecord} (hr : r ∈ g.nodes) :
    r.id.toNat < g.nextId.toNat := by
  obtain ⟨i, hi, rfl⟩ := Array.mem_iff_getElem.1 hr
  have := hg.id_eq i hi
  have := hg.size_le
  unfold size at *
  omega

/-- The index of places leads from the ids to the nodes. -/
lemma indexed (hg : g.Consistent) : Indexed (·.id) g.nodes g.places := hg.places_iff

/-- Looking up an id finds exactly the node that has it. -/
lemma node?_eq_some_iff (hg : g.Consistent) {id : NodeId} {r : NodeRecord} :
    g.node? id = some r ↔ r ∈ g.nodes ∧ r.id = id :=
  hg.indexed.find_eq_some_iff

lemma id_push (hg : g.Consistent) (hid : g.nextId ≠ lastId) (d : NodeDefinition) (args : Args)
    (label : Option String) (i : Nat) (hi : i < (g.push d args label).2.nodes.size) :
    (g.push d args label).2.nodes[i].id.toNat = (g.nextId + 1).toNat - (g.size + 1) + i := by
  have hle := hg.size_le
  simp only [push_nodes, Array.size_push, Array.getElem_push, toNat_add_one hid] at hi ⊢
  split
  · have := hg.id_eq i ‹_›
    omega
  · unfold size at *
    simp only
    omega

/-- No other node has the id of a new one. -/
lemma indexed_push (hg : g.Consistent) (d : NodeDefinition) (args : Args) (label : Option String) :
    Indexed (·.id) (g.push d args label).2.nodes (g.push d args label).2.places :=
  hg.indexed.push fun _ hr hid => Nat.ne_of_lt (hg.id_lt hr) (congrArg UInt64.toNat hid)

/-- A new node takes the counter as its id, which no node has, and the next free place. -/
lemma push (hg : g.Consistent) (hid : g.nextId ≠ lastId) (d : NodeDefinition) (args : Args)
    (label : Option String) : (g.push d args label).2.Consistent := by
  have hnext := toNat_add_one hid
  have hle := hg.size_le
  refine ⟨?_, fun i hi => ?_, hg.indexed_push d args label, fun hs => ?_⟩
  · rw [push_size, push_nextId, hnext]
    omega
  · rw [push_size, push_nextId]
    exact hg.id_push hid d args label i hi
  · have := hg.start hs
    rw [push_size, push_nextId, push_config, hnext]
    omega

lemma step (hg : g.Consistent) {e : Event} (s : Step g e h) : h.Consistent := by
  obtain ⟨rfl, -⟩ | ⟨-, rfl⟩ | ⟨d, args, given, label, -, hid, -, rfl⟩ := s.effect
  · exact hg
  · exact consistent_clear g
  · exact hg.push hid d given label

end Consistent

lemma consistent_applyAll (config : GraphConfig) (ops : List Operation) :
    ((empty config).applyAll ops).Consistent :=
  (steps_history ops _).invariant (fun hg s => hg.step s) (consistent_empty config)

lemma Step.config_eq {e : Event} (s : Step g e h) : h.config = g.config := by
  obtain ⟨rfl, -⟩ | ⟨-, rfl⟩ | ⟨d, args, given, label, -, -, -, rfl⟩ := s.effect <;> rfl

lemma Steps.config_eq {es : List Event} (hes : Steps g es h) : h.config = g.config :=
  hes.invariant (P := fun h => h.config = g.config) (fun hg s => s.config_eq.trans hg) rfl

lemma config_applyAll (config : GraphConfig) (ops : List Operation) :
    ((empty config).applyAll ops).config = config :=
  (steps_history ops _).config_eq

/-- A counter that is exhausted stays so until it starts again. -/
lemma Steps.exhausted {es : List Event} (hes : Steps g es h) (hspent : g.nextId = lastId)
    (hgoes : ∀ e ∈ es, e.restarts g.config.stableIds = false) : h.nextId = lastId := by
  induction hes with
  | refl => exact hspent
  | @tail es e h k hes s ih =>
    have hbefore := ih fun e he => hgoes e (List.mem_append_left _ he)
    obtain ⟨rfl, -⟩ | ⟨rfl, rfl⟩ | ⟨-, -, -, -, -, hid, -⟩ := s.effect
    · exact hbefore
    · have hstable : g.config.stableIds = false := by
        simpa [Event.restarts, Event.isClear] using hgoes .cleared
      simpa [clear, hes.config_eq, hstable] using hbefore
    · exact absurd hbefore hid

/-- **Ids and places.** After any operations the ids of the nodes are consecutive up to the
counter, start where the configuration says if they are stable, and never reach the last id; the
index holds every id with its place and nothing else, so that a lookup stays within the nodes and
finds exactly the node of an id. -/
theorem ids_consecutive (config : GraphConfig) (ops : List Operation) :
    let g := (empty config).applyAll ops
    g.size ≤ g.nextId.toNat ∧
    (∀ i (hi : i < g.nodes.size), g.nodes[i].id.toNat = g.nextId.toNat - g.size + i) ∧
    g.nodes.toList.Pairwise (fun r t => r.id < t.id) ∧
    (∀ r ∈ g.nodes, r.id < g.nextId ∧ r.id ≠ lastId) ∧
    (config.stableIds → ∀ hpos : 0 < g.nodes.size, g.nodes[0].id = config.idStart) ∧
    (∀ id i, g.places[id]? = some i ↔ ∃ hi : i < g.nodes.size, g.nodes[i].id = id) ∧
    (∀ id r, g.node? id = some r ↔ r ∈ g.nodes ∧ r.id = id) := by
  intro g
  have hg : g.Consistent := consistent_applyAll config ops
  have hconfig : g.config = config := config_applyAll config ops
  refine ⟨hg.size_le, hg.id_eq, ?_, fun r hr => ⟨?_, ?_⟩, fun hs hpos => ?_, hg.places_iff,
    fun id r => hg.node?_eq_some_iff⟩
  · rw [List.pairwise_iff_getElem]
    intro i j hi hj hij
    have hi' := hg.id_eq i (by simpa using hi)
    have hj' := hg.id_eq j (by simpa using hj)
    rw [UInt64.lt_iff_toNat_lt]
    simp only [Array.getElem_toList]
    omega
  · exact UInt64.lt_iff_toNat_lt.2 (hg.id_lt hr)
  · intro he
    have hlt := hg.id_lt hr
    have := g.nextId.toNat_lt
    rw [he] at hlt
    simp only [lastId, UInt64.reduceToNat] at hlt
    omega
  · have h0 := hg.id_eq 0 hpos
    rw [← hconfig] at hs
    have := hg.start hs
    rw [← hconfig, ← UInt64.toNat_inj]
    omega

end PromptGraph.Graph
