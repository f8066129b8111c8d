import Mathlib.Data.List.Forall2
import Mathlib.Data.List.Nodup
import PromptGraph.Graph.Compile
import PromptGraph.Proofs.Declarations
import PromptGraph.Proofs.Places

/-!
What compiling gives: the document of the graph, unless one of its connections is at fault.

The document of a graph is there whether the graph compiles or not. Compiling checks the
connections in the order of the nodes and of their inputs, answers with the first fault, and
otherwise with the document.
-/

namespace PromptGraph

/-- An input of a node that is connected, and the output it is connected to. -/
structure Connection where
  node : NodeId
  input : String
  spec : InputSpec
  out : Out

/-- What an argument becomes in a document. -/
def Arg.value : Arg → Literal
  | .literal value => value
  | .connection out => Graph.reference out

namespace NodeRecord

variable (r : NodeRecord)

/-- The connections among some inputs. -/
def connectionsOf (inputs : List (String × InputSpec)) : List Connection :=
  inputs.filterMap fun (name, spec) => (r.args.connection? name).map (⟨r.id, name, spec, ·⟩)

/-- The connections of a node, in the order in which the inputs are declared. -/
def connections : List Connection := r.connectionsOf r.definition.inputs

/-- The values of those inputs among some that have an argument. -/
def valuesOf (inputs : List (String × InputSpec)) : List (String × Literal) :=
  inputs.filterMap fun (name, _) => r.args[name]?.map fun arg => (name, arg.value)

/-- The entry of a node in the document. -/
def entry : PromptEntry where
  classType := r.definition.typeName
  inputs := Std.ExtTreeMap.ofList (r.valuesOf r.definition.inputs)
  annotations := r.label.map fun title => ⟨some title⟩

end NodeRecord

namespace Graph

variable (g : Graph)

/-- The connections of a graph, node by node. -/
def connections : List Connection := g.nodes.toList.flatMap (·.connections)

/-- What compiling has against a connection. -/
def fault? (c : Connection) : Option CompileError :=
  match g.compileConnection c.node c.input c.spec c.out with
  | .error e => some e
  | .ok _ => none

/-- The first fault of a graph. -/
def firstFault? : Option CompileError := g.connections.findSome? g.fault?

/-- The prompt that a graph stands for, with the connections as they are. -/
def document : Prompt := ⟨g.nodes.toList.map fun r => (r.id, r.entry)⟩

lemma compileConnection_eq (c : Connection) :
    g.compileConnection c.node c.input c.spec c.out = okUnless (g.fault? c) (reference c.out) := by
  unfold fault? compileConnection
  cases c.spec.kind with
  | none => rfl
  | some kind =>
    simp only
    split
    · rfl
    · split <;> rfl

lemma compileInputs_eq (r : NodeRecord) (inputs : List (String × InputSpec)) :
    g.compileInputs r inputs =
      okUnless ((r.connectionsOf inputs).findSome? g.fault?) (r.valuesOf inputs) := by
  induction inputs with
  | nil => rfl
  | cons input inputs ih =>
    obtain ⟨name, spec⟩ := input
    rw [compileInputs, NodeRecord.connectionsOf, NodeRecord.valuesOf, List.filterMap_cons,
      List.filterMap_cons, ← NodeRecord.connectionsOf, ← NodeRecord.valuesOf, ih]
    cases ha : r.args[name]? with
    | none => simp [Args.connection?, ha]
    | some arg =>
      cases arg with
      | literal value =>
        have hc : r.args.connection? name = none := by
          simp [Args.connection?, ha, Arg.connection?]
        simp only [ha, hc, Option.map_none, Option.map_some, compileArg, Arg.value]
        exact okUnless_map fun rest => (name, value) :: rest
      | connection out =>
        have hc : r.args.connection? name = some out := by
          simp [Args.connection?, ha, Arg.connection?]
        simp only [ha, hc, Option.map_some, compileArg, Arg.value, List.findSome?_cons]
        rw [compileConnection_eq g ⟨r.id, name, spec, out⟩]
        cases g.fault? ⟨r.id, name, spec, out⟩ with
        | some e => rfl
        | none => exact okUnless_map fun rest => (name, reference out) :: rest

lemma compileNode_eq (r : NodeRecord) :
    g.compileNode r = okUnless (r.connections.findSome? g.fault?) (r.id, r.entry) := by
  rw [compileNode, compileInputs_eq]
  exact okUnless_map fun (values : List (String × Literal)) =>
    (r.id, PromptEntry.mk r.definition.typeName (.ofList values) (r.label.map fun t => ⟨some t⟩))

lemma mapM_compileNode_eq (rs : List NodeRecord) :
    rs.mapM g.compileNode = okUnless ((rs.flatMap (·.connections)).findSome? g.fault?)
      (rs.map fun r => (r.id, r.entry)) := by
  induction rs with
  | nil => rfl
  | cons r rs ih =>
    rw [List.mapM_cons, ih, compileNode_eq, List.flatMap_cons, List.findSome?_append]
    cases r.connections.findSome? g.fault? with
    | some e => rfl
    | none => cases (rs.flatMap (·.connections)).findSome? g.fault? <;> rfl

/-- Compiling answers with the first fault, or else with the document. -/
theorem compile_eq : g.compile = okUnless g.firstFault? g.document := by
  rw [compile, mapM_compileNode_eq, firstFault?, connections]
  cases (g.nodes.toList.flatMap (·.connections)).findSome? g.fault? <;> rfl

lemma compile_of_isNone (h : g.firstFault?.isNone = true) : g.compile = .ok g.document := by
  rw [compile_eq, Option.isNone_iff_eq_none.1 h, okUnless_none]

/-! ### Faults -/

/-- A node of the graph declares the output, by its place and its kind. -/
def Declares (out : Out) : Prop :=
  ∃ r ∈ g.nodes, r.id = out.node ∧
    ∃ o ∈ r.definition.outputs, o.2.index = out.index ∧ o.2.kind = out.kind

/-- The input takes connections of the kind of the output, and the graph has that output. -/
def Sound (c : Connection) : Prop :=
  (∃ kind, c.spec.kind = some kind ∧ c.out.kind = kind) ∧ g.Declares c.out

/-- What is wrong with a connection: the input takes none, or takes those of another kind, or the
graph does not have the output. -/
inductive Fault (c : Connection) : CompileError → Prop
  | unexpected (h : c.spec.kind = none) : Fault c (.unexpectedConnection c.node c.input)
  | mismatch {kind : Kind} (h : c.spec.kind = some kind) (hne : c.out.kind ≠ kind) :
      Fault c (.kindMismatch c.node c.input kind c.out.kind)
  | dangling (h : c.spec.kind = some c.out.kind) (hout : ¬ g.Declares c.out) :
      Fault c (.danglingReference c.node c.input c.out.node c.out.index)

end Graph

namespace Graph

variable {g : Graph}

lemma Consistent.provides_iff (hg : g.Consistent) {out : Out} :
    g.provides out = true ↔ g.Declares out := by
  unfold provides
  constructor
  · intro h
    cases hr : (g.node? out.node).bind (·.definition.outputAt? out.index) with
    | none => simp [hr] at h
    | some o =>
      obtain ⟨r, hnode, ho⟩ := Option.bind_eq_some_iff.1 hr
      obtain ⟨hmem, hid⟩ := hg.node?_eq_some_iff.1 hnode
      obtain ⟨ho, hindex⟩ := NodeDefinition.outputAt?_eq_some_iff.1 ho
      exact ⟨r, hmem, hid, o, ho, hindex, by simpa [hr] using h⟩
  · rintro ⟨r, hmem, hid, o, ho, hindex, hkind⟩
    have hnode := hg.node?_eq_some_iff.2 ⟨hmem, hid⟩
    have ho := NodeDefinition.outputAt?_eq_some_iff.2 ⟨ho, hindex⟩
    simp [hnode, ho, hkind]

lemma Consistent.fault?_eq_none_iff (hg : g.Consistent) {c : Connection} :
    g.fault? c = none ↔ g.Sound c := by
  rw [Sound, ← hg.provides_iff]
  unfold fault? compileConnection
  cases hkind : c.spec.kind with
  | none => simp
  | some kind =>
    by_cases hk : c.out.kind = kind
    · cases hp : g.provides c.out <;> simp [hk]
    · simp [hk, Ne.symm hk]

lemma Consistent.fault?_eq_some_iff (hg : g.Consistent) {c : Connection} {e : CompileError} :
    g.fault? c = some e ↔ g.Fault c e := by
  unfold fault? compileConnection
  constructor
  · intro h
    cases hkind : c.spec.kind with
    | none =>
      simp only [hkind, Option.some.injEq] at h
      exact h ▸ .unexpected hkind
    | some kind =>
      simp only [hkind] at h
      by_cases hk : c.out.kind = kind
      · subst hk
        cases hp : g.provides c.out with
        | true => simp [hp] at h
        | false =>
          simp only [ne_eq, not_true_eq_false, hp, Bool.false_eq_true, ↓reduceIte,
            Option.some.injEq] at h
          exact h ▸ .dangling hkind fun hd => by simp [hg.provides_iff.2 hd] at hp
      · simp only [ne_eq, hk, not_false_eq_true, ↓reduceIte, Option.some.injEq] at h
        exact h ▸ .mismatch hkind hk
  · intro h
    cases h with
    | unexpected hkind => simp [hkind]
    | mismatch hkind hk => simp [hkind, hk]
    | dangling hkind hout => simp [hkind, mt hg.provides_iff.1 hout]

end Graph

/-! ### Entries -/

/-- The literal that an argument is written as: itself, or the pair of the decimal text of the
producer's id and the place of the output. -/
inductive Arg.Writes : Arg → Literal → Prop
  | literal (value : Literal) : Writes (.literal value) value
  | connection {out : Out} {value : Literal}
      (h : value.json = .array [.string (String.ofList (Digits.write out.node.toNat)),
        .number (.ofUInt32 out.index)]) : Writes (.connection out) value

lemma Arg.writes_iff {arg : Arg} {value : Literal} : arg.Writes value ↔ value = arg.value := by
  constructor
  · intro h
    cases h with
    | literal _ => rfl
    | connection h => exact Literal.ext h
  · rintro rfl
    cases arg with
    | literal value => exact .literal value
    | connection out => exact .connection rfl

namespace NodeRecord

/-- What an entry under an id tells about a node. -/
structure Describes (r : NodeRecord) (id : NodeId) (entry : PromptEntry) : Prop where
  id_eq : id = r.id
  classType_eq : entry.classType = r.definition.typeName
  annotations_eq : entry.annotations = r.label.map fun title => ⟨some title⟩
  inputs_iff : ∀ name value, entry.inputs[name]? = some value ↔
    (∃ input ∈ r.definition.inputs, input.1 = name) ∧
      ∃ arg, r.args[name]? = some arg ∧ arg.Writes value

variable {r : NodeRecord}

lemma mem_valuesOf {inputs : List (String × InputSpec)} {name : String} {value : Literal} :
    (name, value) ∈ r.valuesOf inputs ↔
      (∃ input ∈ inputs, input.1 = name) ∧ ∃ arg, r.args[name]? = some arg ∧ arg.value = value := by
  simp only [valuesOf, List.mem_filterMap, Option.map_eq_some_iff, Prod.mk.injEq]
  constructor
  · rintro ⟨input, hinput, arg, harg, rfl, rfl⟩
    exact ⟨⟨input, hinput, rfl⟩, arg, harg, rfl⟩
  · rintro ⟨⟨input, hinput, rfl⟩, arg, harg, rfl⟩
    exact ⟨input, hinput, arg, harg, rfl, rfl⟩

lemma keys_valuesOf_sublist (inputs : List (String × InputSpec)) :
    ((r.valuesOf inputs).map Prod.fst).Sublist (inputs.map Prod.fst) := by
  induction inputs with
  | nil => exact .slnil
  | cons input inputs ih =>
    rw [valuesOf, List.filterMap_cons, ← valuesOf]
    cases ha : r.args[input.1]? with
    | none =>
      simp only [ha, Option.map_none]
      exact ih.cons _
    | some arg =>
      simp only [ha, Option.map_some, List.map_cons]
      exact ih.cons_cons _

lemma entry_inputs_eq_some_iff {name : String} {value : Literal} :
    r.entry.inputs[name]? = some value ↔ (name, value) ∈ r.valuesOf r.definition.inputs := by
  have hnodup : ((r.valuesOf r.definition.inputs).map Prod.fst).Nodup :=
    r.definition.inputs_nodup.sublist (keys_valuesOf_sublist _)
  have hdistinct : (r.valuesOf r.definition.inputs).Pairwise
      fun a b => ¬compare a.1 b.1 = .eq := by
    simpa [List.Nodup, List.pairwise_map] using hnodup
  have hfind {value : Literal} (h : (name, value) ∈ r.valuesOf r.definition.inputs) :
      r.entry.inputs[name]? = some value :=
    Std.ExtTreeMap.getElem?_ofList_of_mem Std.ReflCmp.compare_self hdistinct h
  refine ⟨fun h => ?_, hfind⟩
  by_cases hname : name ∈ (r.valuesOf r.definition.inputs).map Prod.fst
  · obtain ⟨⟨_, value'⟩, hmem, rfl⟩ := List.mem_map.1 hname
    rw [hfind hmem] at h
    exact Option.some.inj h ▸ hmem
  · have hnone : r.entry.inputs[name]? = none :=
      Std.ExtTreeMap.getElem?_ofList_of_contains_eq_false (by simpa using hname)
    rw [hnone] at h
    cases h

lemma describes_entry (r : NodeRecord) : r.Describes r.id r.entry where
  id_eq := rfl
  classType_eq := rfl
  annotations_eq := rfl
  inputs_iff name value := by
    rw [entry_inputs_eq_some_iff, mem_valuesOf]
    simp only [Arg.writes_iff, @eq_comm _ value]

end NodeRecord

namespace Graph

variable {g : Graph}

lemma mem_connections {c : Connection} :
    c ∈ g.connections ↔ ∃ r ∈ g.nodes, c.node = r.id ∧ (c.input, c.spec) ∈ r.definition.inputs ∧
      r.args[c.input]? = some (.connection c.out) := by
  simp only [connections, NodeRecord.connections, NodeRecord.connectionsOf, List.mem_flatMap,
    Array.mem_toList_iff, List.mem_filterMap, Option.map_eq_some_iff,
    Args.connection?_eq_some_iff]
  constructor
  · rintro ⟨r, hr, input, hinput, out, hout, rfl⟩
    exact ⟨r, hr, rfl, hinput, hout⟩
  · rintro ⟨r, hr, hnode, hinput, hout⟩
    exact ⟨r, hr, (c.input, c.spec), hinput, c.out, hout, by rw [← hnode]⟩

lemma firstFault?_eq_none_iff (hg : g.Consistent) :
    g.firstFault? = none ↔ ∀ c ∈ g.connections, g.Sound c := by
  simp [firstFault?, List.findSome?_eq_none_iff, hg.fault?_eq_none_iff]

/-- Without a fault, an input that is connected declares the kind of the output. -/
lemma Consistent.kind_eq_of_connected (hg : g.Consistent) (h : g.firstFault? = none)
    {r : NodeRecord} (hr : r ∈ g.nodes) {input : String × InputSpec}
    (hinput : input ∈ r.definition.inputs) {out : Out}
    (hout : r.args[input.1]? = some (.connection out)) : input.2.kind = some out.kind := by
  obtain ⟨⟨kind, hkind, hsame⟩, -⟩ := (firstFault?_eq_none_iff hg).1 h ⟨r.id, input.1, input.2, out⟩
    (mem_connections.2 ⟨r, hr, rfl, hinput, hout⟩)
  exact hsame ▸ hkind

lemma firstFault?_eq_some_iff (hg : g.Consistent) {e : CompileError} :
    g.firstFault? = some e ↔ ∃ before c after, g.connections = before ++ c :: after ∧
      (∀ b ∈ before, g.Sound b) ∧ g.Fault c e := by
  rw [firstFault?, List.findSome?_eq_some_iff]
  simp only [hg.fault?_eq_none_iff, hg.fault?_eq_some_iff, and_comm]

/-- **Compilation is sound and complete.** It succeeds exactly if every connection of the graph is
sound; the prompt then describes the nodes one by one, and otherwise the error is that of the first
connection that is not. -/
theorem compile_sound_complete (config : GraphConfig) (ops : List Operation) :
    let g := (empty config).applyAll ops
    ((∃ p, g.compile = .ok p) ↔
      ∀ r ∈ g.nodes, ∀ input ∈ r.definition.inputs, ∀ out,
        r.args[input.1]? = some (.connection out) →
          (∃ kind, input.2.kind = some kind ∧ out.kind = kind) ∧ g.Declares out) ∧
    (∀ p, g.compile = .ok p →
      List.Forall₂ (fun r (id, entry) => r.Describes id entry) g.nodes.toList p.entries) ∧
    (∀ e, g.compile = .error e ↔
      ∃ before c after, g.connections = before ++ c :: after ∧ (∀ b ∈ before, g.Sound b) ∧
        g.Fault c e) := by
  intro g
  have hg : g.Consistent := consistent_applyAll config ops
  refine ⟨?_, fun p hp => ?_, fun e => ?_⟩
  · simp only [compile_eq, okUnless_eq_ok_iff, exists_and_left, exists_eq', and_true,
      firstFault?_eq_none_iff hg]
    constructor
    · intro h r hr input hinput out hout
      exact h ⟨r.id, input.1, input.2, out⟩ (mem_connections.2 ⟨r, hr, rfl, hinput, hout⟩)
    · intro h c hc
      obtain ⟨r, hr, -, hinput, hout⟩ := mem_connections.1 hc
      exact h r hr (c.input, c.spec) hinput c.out hout
  · rw [compile_eq, okUnless_eq_ok_iff] at hp
    rw [← hp.2, document, List.forall₂_map_right_iff, List.forall₂_same]
    exact fun r _ => r.describes_entry
  · rw [compile_eq, okUnless_eq_error_iff, firstFault?_eq_some_iff hg]

end Graph

end PromptGraph
