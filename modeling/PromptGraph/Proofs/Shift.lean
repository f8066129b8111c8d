import PromptGraph.Proofs.Admission
import PromptGraph.Proofs.Growth

/-!
Moving all node ids by one offset.

Ids are names that callers and build procedures only pass around. Moving the ids in everything that
a graph is given, its counter included, moves the ids in everything that it gives back and changes
nothing else, as long as the moved counter is not exhausted.
-/

namespace PromptGraph

/-- Values in which ids occur, all of which can be moved by an offset and back again. -/
class Shift (α : Type) where
  shift : NodeId → α → α
  shift_neg_shift (k : NodeId) (a : α) : shift (-k) (shift k a) = a

open Shift (shift)

section instances

variable {α : Type} [Shift α] (k : NodeId)

@[simp] lemma shift_neg_shift (a : α) : shift (-k) (shift k a) = a := Shift.shift_neg_shift k a

@[simp] lemma shift_shift_neg (a : α) : shift k (shift (-k) a) = a := by
  have h := shift_neg_shift (-k) a
  rwa [UInt64.neg_neg] at h

instance : Shift NodeId where
  shift k id := id + k
  shift_neg_shift k id := by rw [UInt64.add_assoc, UInt64.add_right_neg, UInt64.add_zero]

lemma shift_id (id : NodeId) : shift k id = id + k := rfl

lemma shift_id_inj {i j : NodeId} : shift k i = shift k j ↔ i = j := UInt64.add_left_inj k

instance : Shift Out where
  shift k out := { out with node := shift k out.node }
  shift_neg_shift k out := by simp

@[simp] lemma kind_shift (out : Out) : (shift k out).kind = out.kind := rfl
@[simp] lemma node_shift (out : Out) : (shift k out).node = shift k out.node := rfl
@[simp] lemma index_shift (out : Out) : (shift k out).index = out.index := rfl

instance : Shift Arg where
  shift k
    | .literal value => .literal value
    | .connection out => .connection (shift k out)
  shift_neg_shift k arg := by cases arg <;> simp

@[simp] lemma shift_literal (value : Literal) : shift k (Arg.literal value) = .literal value := rfl

@[simp] lemma shift_connection (out : Out) :
    shift k (Arg.connection out) = .connection (shift k out) := rfl

instance : Shift (String × α) where
  shift k p := (p.1, shift k p.2)
  shift_neg_shift k p := by simp

@[simp] lemma fst_shift (p : String × α) : (shift k p).1 = p.1 := rfl
@[simp] lemma snd_shift (p : String × α) : (shift k p).2 = shift k p.2 := rfl

instance : Shift (List α) where
  shift k as := as.map (shift k)
  shift_neg_shift k as := by simp [Function.comp_def]

lemma shift_list (as : List α) : shift k as = as.map (shift k) := rfl

@[simp] lemma shift_cons (a : α) (as : List α) : shift k (a :: as) = shift k a :: shift k as := rfl

instance : Shift (Option α) where
  shift k a := a.map (shift k)
  shift_neg_shift k a := by simp [Function.comp_def]

@[simp] lemma shift_none : shift k (none : Option α) = none := rfl
@[simp] lemma shift_some (a : α) : shift k (some a) = some (shift k a) := rfl

lemma lookup_shift (l : List (String × α)) (name : String) :
    (shift k l).lookup name = shift k (l.lookup name) := by
  induction l with
  | nil => rfl
  | cons p l ih =>
    rw [shift_cons, List.lookup_cons, List.lookup_cons, fst_shift, snd_shift]
    cases name == p.1 with
    | true => rfl
    | false => exact ih

instance : Shift (NameMap α) where
  shift k m := m.map fun _ a => shift k a
  shift_neg_shift k m := by
    apply Std.ExtTreeMap.ext_getElem?
    intro name
    simp

@[simp] lemma getElem?_shift (m : NameMap α) (name : String) :
    (shift k m)[name]? = shift k m[name]? :=
  Std.ExtTreeMap.getElem?_map

@[simp] lemma contains_shift (m : NameMap α) (name : String) :
    (shift k m).contains name = m.contains name :=
  Std.ExtTreeMap.contains_map

@[simp] lemma keys_shift (m : NameMap α) : (shift k m).keys = m.keys := Std.ExtTreeMap.keys_map

lemma shift_empty : shift k (∅ : NameMap α) = ∅ := by
  apply Std.ExtTreeMap.ext_getElem?
  intro name
  simp

lemma insert_shift (m : NameMap α) (name : String) (a : α) :
    (shift k m).insert name (shift k a) = shift k (m.insert name a) := by
  apply Std.ExtTreeMap.ext_getElem?
  intro n
  rw [getElem?_shift, Std.ExtTreeMap.getElem?_insert, Std.ExtTreeMap.getElem?_insert,
    getElem?_shift]
  split <;> rfl

instance : Shift NodeHandle where
  shift k h := { h with id := shift k h.id, outputs := shift k h.outputs }
  shift_neg_shift k h := by simp

instance : Shift SubgraphHandle where
  shift k h := { h with outputs := shift k h.outputs }
  shift_neg_shift k h := by simp

instance : Shift Handle where
  shift k
    | .node h => .node (shift k h)
    | .subgraph h => .subgraph (shift k h)
  shift_neg_shift k h := by cases h <;> simp

instance : Shift BuildError where
  shift k
    | .idSpaceExhausted id => .idSpaceExhausted (shift k id)
    | e => e
  shift_neg_shift k e := by cases e <;> simp

instance : Shift (Except BuildError α) where
  shift k
    | .error e => .error (shift k e)
    | .ok a => .ok (shift k a)
  shift_neg_shift k a := by cases a <;> simp

@[simp] lemma shift_error (e : BuildError) :
    shift k (.error e : Except BuildError α) = .error (shift k e) := rfl

@[simp] lemma shift_ok (a : α) : shift k (.ok a : Except BuildError α) = .ok (shift k a) := rfl

instance : Shift CompileError where
  shift k
    | .kindMismatch node input expected found => .kindMismatch (shift k node) input expected found
    | .danglingReference node input producer index =>
      .danglingReference (shift k node) input (shift k producer) index
    | .unexpectedConnection node input => .unexpectedConnection (shift k node) input
  shift_neg_shift k e := by cases e <;> simp

instance : Shift NodeRecord where
  shift k r := { r with id := shift k r.id, args := shift k r.args }
  shift_neg_shift k r := by simp

end instances

/-! ### Programs -/

/-- The procedure that does with moved ids what a procedure does. -/
def Procedure.shifted (k : NodeId) : Procedure → Procedure
  | .finish outputs => .finish (shift k outputs)
  | .fail e => .fail (shift k e)
  | .addNode d args label next =>
    .addNode d (shift k args) label fun answer => (next (shift (-k) answer)).shifted k
  | .addSubgraph s build args label next =>
    .addSubgraph s (fun args => (build (shift (-k) args)).shifted k) (shift k args) label
      fun answer => (next (shift (-k) answer)).shifted k

def SubgraphDefinition.shifted (k : NodeId) (d : SubgraphDefinition) : SubgraphDefinition :=
  { d with procedure := fun args => (d.procedure (shift (-k) args)).shifted k }

def Definition.shifted (k : NodeId) : Definition → Definition
  | .node d => .node d
  | .subgraph d => .subgraph (d.shifted k)

def Operation.shifted (k : NodeId) : Operation → Operation
  | .add d args label => .add (d.shifted k) (shift k args) label
  | .addNode d args label => .addNode d (shift k args) label
  | .addSubgraph d args label => .addSubgraph (d.shifted k) (shift k args) label
  | .clear => .clear

/-! ### Arguments and outputs -/

section

variable (k : NodeId)

namespace Args

variable (strict : Bool) (typeName : String) (inputs : List (String × InputSpec)) (args : Args)

lemma connection?_shift (name : String) :
    (shift k args).connection? name = shift k (args.connection? name) := by
  unfold connection?
  rw [getElem?_shift]
  cases args[name]? with
  | none => rfl
  | some arg => cases arg <;> rfl

lemma filter_shift (p : String → Bool) :
    ((shift k args).filter fun name _ => p name) = shift k (args.filter fun name _ => p name) := by
  apply Std.ExtTreeMap.ext_getElem?
  intro name
  rw [getElem?_shift, Std.ExtTreeMap.getElem?_filter', Std.ExtTreeMap.getElem?_filter',
    getElem?_shift]
  cases args[name]? with
  | none => rfl
  | some arg => cases p name <;> rfl

lemma fill_shift :
    fill strict typeName inputs (shift k args) = shift k (fill strict typeName inputs args) := by
  induction inputs generalizing args with
  | nil => rfl
  | cons input inputs ih =>
    obtain ⟨name, spec⟩ := input
    unfold fill
    rw [contains_shift]
    split
    · exact ih args
    · cases spec.default with
      | some value => exact (congrArg _ (insert_shift k args name (Arg.literal value))).trans (ih _)
      | none =>
        simp only
        split
        · rfl
        · exact ih args

/-- Resolution only passes connections on. -/
lemma resolve_shift : resolve strict typeName inputs (shift k args) =
    shift k (resolve strict typeName inputs args) := by
  have hnames : (shift k args).undeclared inputs = args.undeclared inputs := by
    rw [undeclared, undeclared, keys_shift]
  unfold resolve
  rw [hnames]
  split
  · rfl
  · rw [filter_shift]
    exact fill_shift k _ typeName inputs _

lemma checkConnections_shift :
    (shift k args).checkConnections typeName inputs = args.checkConnections typeName inputs := by
  induction inputs with
  | nil => rfl
  | cons input inputs ih =>
    obtain ⟨name, spec⟩ := input
    unfold checkConnections
    rw [connection?_shift]
    cases args.connection? name with
    | none => exact ih
    | some out => simp only [shift_some, kind_shift, ih]

/-- The errors of the check name no ids. -/
lemma shift_of_checkConnections {e : BuildError}
    (h : args.checkConnections typeName inputs = .error e) : shift k e = e := by
  obtain ⟨-, input, -, -, -, hobjection⟩ := checkConnections_eq_error_iff.1 h
  cases hobjection <;> rfl

end Args

lemma Signature.admit_shift (s : Signature SubgraphOutputSpec) (strict : Bool) (args : Args) :
    s.admit strict (shift k args) = (shift k <| s.admit strict args) := by
  unfold Signature.admit
  rw [Args.resolve_shift]
  cases args.resolve strict s.typeName s.inputs with
  | error e => rfl
  | ok given =>
    have hcheck := Args.checkConnections_shift k s.typeName s.inputs given
    cases h : given.checkConnections s.typeName s.inputs with
    | error e =>
      have he := Args.shift_of_checkConnections k s.typeName s.inputs given h
      rw [h] at hcheck
      simp [bind, Except.bind, h, hcheck, he]
    | ok u =>
      rw [h] at hcheck
      simp [bind, Except.bind, pure, Except.pure, h, hcheck]

namespace SubgraphOutputs

variable (returned : SubgraphOutputs) (declared : List (String × SubgraphOutputSpec))

lemma inOrder_shift :
    (shift k returned).inOrder declared = (returned.inOrder declared).map (shift k) := by
  induction declared with
  | nil => rfl
  | cons output declared ih =>
    obtain ⟨name, spec⟩ := output
    unfold inOrder
    rw [getElem?_shift]
    cases returned[name]? with
    | none => rfl
    | some out =>
      simp only [shift_some, kind_shift, ih]
      split
      · cases returned.inOrder declared <;> rfl
      · rfl

lemma verify_shift :
    (shift k returned).verify declared = (returned.verify declared).map (shift k) := by
  have hnames : (shift k returned).undeclared declared = returned.undeclared declared := by
    rw [undeclared, undeclared, keys_shift]
  unfold verify
  rw [hnames]
  split
  · exact inOrder_shift k returned declared
  · rfl

end SubgraphOutputs

lemma Signature.handle_shift (s : Signature SubgraphOutputSpec) (label : Option String)
    (returned : Except BuildError SubgraphOutputs) :
    s.handle label (shift k returned) = shift k (s.handle label returned) := by
  cases returned with
  | error e => rfl
  | ok returned =>
    simp only [handle, shift_ok, SubgraphOutputs.verify_shift]
    cases returned.verify s.outputs <;> rfl

end

/-! ### Graphs -/

namespace Graph

variable {k : NodeId} {g h : Graph}

/-- The second graph is the first with all ids moved; the counter is moved without wrapping. -/
structure Shifted (k : NodeId) (g h : Graph) : Prop where
  config_eq : h.config = g.config
  nodes_eq : h.nodes = g.nodes.map (shift k)
  places_eq : ∀ id : NodeId, h.places[shift k id]? = g.places[id]?
  nextId_eq : h.nextId.toNat = g.nextId.toNat + k.toNat

namespace Shifted

lemma nextId_shift (hgh : Shifted k g h) : h.nextId = shift k g.nextId := by
  have hlt := h.nextId.toNat_lt
  apply UInt64.toNat_inj.1
  rw [hgh.nextId_eq] at hlt ⊢
  rw [shift_id, UInt64.toNat_add, Nat.mod_eq_of_lt hlt]

lemma size_eq (hgh : Shifted k g h) : h.nodes.size = g.nodes.size := by
  rw [hgh.nodes_eq, Array.size_map]

/-- The counter that is not moved is exhausted no earlier than the moved one. -/
lemma ne_last (hgh : Shifted k g h) (hlast : h.nextId ≠ lastId) : g.nextId ≠ lastId := by
  intro he
  apply hlast
  have hlt := h.nextId.toNat_lt
  have hnext := hgh.nextId_eq
  apply UInt64.toNat_inj.1
  rw [he] at hnext
  simp only [lastId, UInt64.reduceToNat] at hnext ⊢
  omega

lemma fst_push (hgh : Shifted k g h) (d : NodeDefinition) (args : Args) (label : Option String) :
    (h.push d (shift k args) label).1 = shift k (g.push d args label).1 := by
  have hid : h.nextId = shift k g.nextId := hgh.nextId_shift
  simp only [push, hid]
  simp only [shift, List.map_map, Function.comp_def]

lemma push (hgh : Shifted k g h) (hlast : h.nextId ≠ lastId) (d : NodeDefinition) (args : Args)
    (label : Option String) :
    Shifted k (g.push d args label).2 (h.push d (shift k args) label).2 where
  config_eq := hgh.config_eq
  nodes_eq := by
    rw [push_nodes, push_nodes, hgh.nodes_eq, Array.map_push, hgh.nextId_shift]
    rfl
  places_eq id := by
    rw [push_places, push_places, Std.ExtTreeMap.getElem?_insert, Std.ExtTreeMap.getElem?_insert,
      hgh.places_eq, hgh.size_eq, hgh.nextId_shift]
    simp only [Std.LawfulEqOrd.compare_eq_iff_eq, shift_id_inj]
  nextId_eq := by
    have hnext := hgh.nextId_eq
    rw [push_nextId, push_nextId, toNat_add_one hlast, toNat_add_one (hgh.ne_last hlast)]
    omega

lemma addNode (hgh : Shifted k g h) (d : NodeDefinition) (args : Args) (label : Option String)
    (hlast : h.nextId ≠ lastId) :
    (h.addNode d (shift k args) label).1 = shift k (g.addNode d args label).1 ∧
    Shifted k (g.addNode d args label).2 (h.addNode d (shift k args) label).2 := by
  unfold Graph.addNode
  rw [hgh.config_eq, Args.resolve_shift]
  cases args.resolve g.config.strict d.typeName d.inputs with
  | error e => exact ⟨rfl, hgh⟩
  | ok given =>
    simp only [shift_ok, hlast, hgh.ne_last hlast, ↓reduceIte]
    exact ⟨congrArg Except.ok (hgh.fst_push d given label), hgh.push hlast d given label⟩

end Shifted

/-- Without stable ids a counter that is exhausted stays so. -/
lemma Steps.ne_last {es : List Event} (hes : Steps g es h) (hstable : g.config.stableIds = false)
    (hlast : h.nextId ≠ lastId) : g.nextId ≠ lastId := by
  intro hspent
  exact hlast (hes.exhausted hspent fun e _ => by simp [Event.restarts, hstable])

lemma config_run (g : Graph) (p : Procedure) : (g.run p).2.config = g.config :=
  (steps_run p g).config_eq

namespace Shifted

/-- What a procedure does to a graph, the procedure with moved ids does to the graph with moved
ids. -/
theorem run (p : Procedure) {g h : Graph} (hgh : Shifted k g h)
    (hstable : h.config.stableIds = false) (hlast : (h.run (p.shifted k)).2.nextId ≠ lastId) :
    (h.run (p.shifted k)).1 = shift k (g.run p).1 ∧
    Shifted k (g.run p).2 (h.run (p.shifted k)).2 := by
  induction p generalizing g h with
  | finish outputs => exact ⟨rfl, hgh⟩
  | fail e => exact ⟨rfl, hgh⟩
  | addNode d args label next ih =>
    simp only [Procedure.shifted, Graph.run] at hlast ⊢
    have hconfig : (h.addNode d (shift k args) label).2.config = h.config :=
      (Step.added h d (shift k args) label).config_eq
    have hadd := (steps_run _ _).ne_last (hconfig ▸ hstable) hlast
    obtain ⟨hanswer, hadded⟩ := hgh.addNode d args label <|
      (steps_addNode h d (shift k args) label).ne_last hstable hadd
    rw [hanswer, shift_neg_shift] at hlast ⊢
    exact ih _ hadded (hconfig ▸ hstable) hlast
  | addSubgraph s build args label next ihBuild ihNext =>
    simp only [Procedure.shifted, Graph.run] at hlast ⊢
    rw [hgh.config_eq, Signature.admit_shift] at hlast ⊢
    cases ha : s.admit g.config.strict args with
    | error e =>
      simp only [ha, shift_error, shift_neg_shift] at hlast ⊢
      exact ihNext _ hgh hstable hlast
    | ok given =>
      simp only [ha, shift_ok, shift_neg_shift] at hlast ⊢
      -- the build ends before the counter is exhausted, as the rest does
      have hconfig := config_run h ((build given).shifted k)
      have hinner := (steps_run _ _).ne_last (hconfig ▸ hstable) hlast
      obtain ⟨hreturned, hbuilt⟩ := ihBuild given hgh hstable hinner
      rw [hreturned, Signature.handle_shift, shift_neg_shift] at hlast ⊢
      exact ihNext _ hbuilt (hconfig ▸ hstable) hlast

end Shifted

end Graph

end PromptGraph
