import PromptGraph.Proofs.Flat

/-!
Adding one node, from the arguments to the handle.

The arguments are resolved first, then an id is taken; if either fails, the graph stays as it was.
Otherwise the graph has one node more. A lookup of its id finds it, lookups of other ids find what
they found before, and the handle tells what the definition declares. All of this holds in the
midst of a build procedure as well.
-/

namespace PromptGraph

/-- What the handle of a node tells: its id, its type, its label, and under every declared name an
output of the declared kind at the declared place. -/
structure NodeHandle.Shows (handle : NodeHandle) (r : NodeRecord) : Prop where
  id_eq : handle.id = r.id
  classType_eq : handle.classType = r.definition.typeName
  label_eq : handle.label = r.label
  out_declared : ∀ output ∈ r.definition.outputs,
    handle.out output.1 = .ok ⟨output.2.kind, r.id, output.2.index⟩
  out_undeclared : ∀ name, (∀ output ∈ r.definition.outputs, output.1 ≠ name) →
    handle.out name = .error (.unknownOutput r.definition.typeName name)

namespace NodeRecord

variable (r : NodeRecord)

lemma map_fst_outputs_handle :
    r.handle.outputs.map Prod.fst = r.definition.outputs.map Prod.fst := by
  simp [handle]

lemma shows_handle : r.handle.Shows r where
  id_eq := rfl
  classType_eq := rfl
  label_eq := rfl
  out_declared output houtput := by
    have hnodup : (r.handle.outputs.map Prod.fst).Nodup := by
      rw [map_fst_outputs_handle]
      exact r.definition.outputs_nodup
    have hmem : (output.1, ⟨output.2.kind, r.id, output.2.index⟩) ∈ r.handle.outputs :=
      List.mem_map_of_mem houtput
    simp only [NodeHandle.out, findOut, lookup_of_mem hnodup hmem]
  out_undeclared name hname := by
    have hfresh : name ∉ r.handle.outputs.map Prod.fst := by
      rw [map_fst_outputs_handle, List.mem_map]
      rintro ⟨output, houtput, rfl⟩
      exact hname output houtput rfl
    simp only [NodeHandle.out, findOut, lookup_eq_none_of_not_mem hfresh]
    rfl

end NodeRecord

namespace Graph

variable {g : Graph} {d : NodeDefinition} {args : Args} {label : Option String}

section push

variable (hg : g.Consistent) (hid : g.nextId ≠ lastId)
include hg hid

lemma node?_push_eq_some_iff {id : NodeId} {r : NodeRecord} :
    (g.push d args label).2.node? id = some r ↔
      g.node? id = some r ∨ (r = ⟨g.nextId, d, label, args⟩ ∧ r.id = id) := by
  rw [(grown_push hid d args label).node?_eq_some_iff hg (hg.push hid d args label),
    List.mem_singleton]

lemma node?_push_self :
    (g.push d args label).2.node? g.nextId = some ⟨g.nextId, d, label, args⟩ :=
  (node?_push_eq_some_iff hg hid).2 (.inr ⟨rfl, rfl⟩)

lemma node?_push_of_ne {id : NodeId} (hne : id ≠ g.nextId) :
    (g.push d args label).2.node? id = g.node? id := by
  apply Option.ext
  intro r
  rw [node?_push_eq_some_iff hg hid, or_iff_left]
  rintro ⟨rfl, rfl⟩
  exact hne rfl

end push

/-- **Adding one node.** At any time of a history, in build procedures as well, an addition fails
exactly if the arguments do not resolve, with that error, or if they do and the last id is next; the
graph then stays as it was. Otherwise the graph has one node more, under the id that was next and
with the resolved arguments; a lookup of that id finds it and every other lookup finds what it found
before, and the handle shows what the definition declares. -/
theorem addNode_exact (config : GraphConfig) (ops : List Operation) (before rest : List Event)
    (hsplit : (empty config).history ops = before ++ rest) (d : NodeDefinition) (args : Args)
    (label : Option String) :
    let g := (empty config).after before
    let resolved := args.resolve config.strict d.typeName d.inputs
    (∀ e, (g.addNode d args label).1 = .error e ↔
      resolved = .error e ∨
      (∃ given, resolved = .ok given) ∧ g.nextId = lastId ∧ e = .idSpaceExhausted lastId) ∧
    (∀ e, (g.addNode d args label).1 = .error e → (g.addNode d args label).2 = g) ∧
    (∀ given, resolved = .ok given → g.nextId ≠ lastId →
      let r : NodeRecord := ⟨g.nextId, d, label, given⟩
      ∃ handle h, g.addNode d args label = (.ok handle, h) ∧ Grown g [r] h ∧
        h.node? r.id = some r ∧ (∀ id, id ≠ r.id → h.node? id = g.node? id) ∧
        handle.Shows r) := by
  intro g resolved
  have hes : Steps (empty config) before g := by
    have hall := steps_history ops (empty config)
    rw [hsplit] at hall
    exact hall.split.1
  have hg : g.Consistent := hes.invariant (fun hg s => hg.step s) (consistent_empty config)
  have hconfig : g.config = config := hes.config_eq
  have hresolved : resolved = args.resolve g.config.strict d.typeName d.inputs := by rw [hconfig]
  rw [hresolved]
  refine ⟨fun e => addNode_eq_error_iff, fun e => addNode_of_error, fun given hgiven hid => ?_⟩
  exact ⟨_, _, addNode_of_resolve hgiven hid label, grown_push hid d given label,
    node?_push_self hg hid, fun id hne => node?_push_of_ne hg hid hne,
    NodeRecord.shows_handle _⟩

/-- A node, and then another one inside a subgraph. -/
def nestedRun : List Operation := [.addNode relay ∅ none, .addSubgraph relayed ∅ none]

/-- The addition of a third node before the subgraph is closed. -/
theorem nestedRun_addition :
    let es := (empty {}).history nestedRun
    let g := (empty {}).after (es.take 3)
    let r : NodeRecord := ⟨3, relay, some "last", ∅⟩
    es = es.take 3 ++ es.drop 3 ∧ (∅ : Args).resolve true relay.typeName relay.inputs = .ok ∅ ∧
    g.nextId = 3 ∧ g.nextId ≠ lastId ∧
    ∃ handle h, g.addNode relay ∅ (some "last") = (.ok handle, h) ∧ Grown g [r] h ∧
      h.node? 3 = some r ∧ (∀ id, id ≠ 3 → h.node? id = g.node? id) ∧ handle.Shows r := by
  intro es g r
  have hsplit : es = es.take 3 ++ es.drop 3 := (List.take_append_drop 3 es).symm
  have hresolves : (∅ : Args).resolve true relay.typeName relay.inputs = .ok ∅ := rfl
  have hnext : g.nextId = 3 := rfl
  have hlast : g.nextId ≠ lastId := by decide +kernel
  obtain ⟨-, -, hadded⟩ :=
    addNode_exact {} nestedRun _ _ hsplit relay ∅ (some "last")
  exact ⟨hsplit, hresolves, hnext, hlast, hadded ∅ hresolves hlast⟩

end Graph

end PromptGraph
