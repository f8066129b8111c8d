import PromptGraph.Proofs.Growth
import PromptGraph.Proofs.Json.Numerals
import PromptGraph.Proofs.ShiftedPrompt

/-!
References in prompts, as the engine sees them.

To the engine every pair of a decimal string and a place is a reference. What a connection has
become is one, and the prompt has the output that it leads to. A literal is passed on as it is and
may look like a reference to anything.
-/

namespace PromptGraph

/-- The id and the place that a value refers to, if it has the shape of a reference. -/
def Literal.reference? (value : Literal) : Option (String × Nat) :=
  match value.json with
  | .array [.string id, .number (.integer index _)] =>
    if (Digits.read? id.toList).isSome ∧ 0 ≤ index then some (id, index.toNat) else none
  | _ => none

lemma Literal.reference?_reference (out : Out) :
    (Graph.reference out).reference? = some (toString out.node, out.index.toNat) := by
  have hid : (toString out.node).toList = Digits.write out.node.toNat := Nat.toList_repr
  simp [Literal.reference?, Graph.reference, Json.Number.ofUInt32, hid, Digits.read?_write]

namespace Graph

variable {g h : Graph} {es : List Event} {r : NodeRecord} {p : Prompt}

/-- The prompt has an entry with the id as its key, and the node of that entry declares an output of
the kind at the place. -/
def Leads (g : Graph) (p : Prompt) (id : String) (index : Nat) (kind : Kind) : Prop :=
  ∃ r ∈ g.nodes, r.id ∈ p.ids ∧ toString r.id = id ∧
    ∃ o ∈ r.definition.outputs, o.2.index.toNat = index ∧ o.2.kind = kind

/-- Where the value of an input comes from, given the argument that was handed in for it when its
node was added. -/
inductive Origin (g : Graph) (p : Prompt) (spec : InputSpec) : Option Arg → Literal → Prop
  /-- A literal is passed on. -/
  | literal (value : Literal) : Origin g p spec (some (.literal value)) value
  /-- Without an argument the default is passed on. -/
  | default {value : Literal} (h : spec.default = some value) : Origin g p spec none value
  /-- A connection has become a reference that leads to an output of the kind of the input. -/
  | connection {out : Out} {value : Literal}
      (href : value.reference? = some (toString out.node, out.index.toNat))
      (hkind : spec.kind = some out.kind)
      (hleads : g.Leads p (toString out.node) out.index.toNat out.kind) :
      Origin g p spec (some (.connection out)) value

/-- Among the events is the addition of a node, with these arguments handed in. -/
def AddedWith (es : List Event) (r : NodeRecord) (args : Args) : Prop :=
  ∃ handle, handle.id = r.id ∧ .added r.definition args r.label (.ok handle) ∈ es

/-! ### Additions -/

/-- Every node was added since the last clear, and its arguments are those handed in, resolved. -/
lemma Steps.exists_addedWith {config : GraphConfig} (hes : Steps (empty config) es g)
    (hr : r ∈ g.nodes) : ∃ args, AddedWith (sinceClear es) r args ∧
      args.resolve config.strict r.definition.typeName r.definition.inputs = .ok r.args := by
  rw [← Array.mem_toList_iff, hes.nodes_eq rfl] at hr
  obtain ⟨e, he, hrecord⟩ := List.mem_filterMap.1 hr
  obtain ⟨args, handle, hid, rfl, hargs⟩ := Event.record?_eq_some hrecord
  exact ⟨args, ⟨handle, hid, he⟩, hargs⟩

/-! ### Values -/

/-- An output of the graph is one of the node of an entry. -/
lemma Declares.leads {out : Out} (hout : g.Declares out) :
    g.Leads g.document (toString out.node) out.index.toNat out.kind := by
  obtain ⟨r, hr, hid, o, ho, hindex, hkind⟩ := hout
  have hentry : r.id ∈ g.document.ids := by
    simp only [document, Prompt.ids, List.map_map, List.mem_map]
    exact ⟨r, by simpa using hr, rfl⟩
  exact ⟨r, hr, hentry, by rw [hid], o, ho, by rw [hindex], hkind⟩

/-- The value of an input is what the argument that was handed in has become, or the default. -/
lemma exists_origin (hsound : ∀ c ∈ g.connections, g.Sound c) (hr : r ∈ g.nodes) {strict : Bool}
    {args : Args}
    (hargs : args.resolve strict r.definition.typeName r.definition.inputs = .ok r.args)
    {name : String} {value : Literal} (hvalue : r.entry.inputs[name]? = some value) :
    ∃ spec, (name, spec) ∈ r.definition.inputs ∧ g.Origin g.document spec args[name]? value := by
  rw [NodeRecord.getElem?_entry_inputs, Option.bind_eq_some_iff] at hvalue
  obtain ⟨spec, hspec, hvalue⟩ := hvalue
  obtain ⟨arg, harg, rfl⟩ := Option.map_eq_some_iff.1 hvalue
  have hmem : (name, spec) ∈ r.definition.inputs := by
    obtain ⟨before, after, hsplit, -⟩ := List.lookup_eq_some_iff.1 hspec
    simp [hsplit]
  have hgiven := Args.resolve_get r.definition.inputs_nodup hargs name
  rw [harg, hspec, Option.bind_some] at hgiven
  refine ⟨spec, hmem, ?_⟩
  cases hhanded : args[name]? with
  | none =>
    rw [hhanded, Option.none_or] at hgiven
    obtain ⟨value, hdefault, rfl⟩ := Option.map_eq_some_iff.1 hgiven.symm
    exact .default hdefault
  | some handed =>
    rw [hhanded, Option.some_or] at hgiven
    obtain rfl := Option.some.inj hgiven
    cases arg with
    | literal value => exact .literal value
    | connection out =>
      obtain ⟨⟨kind, hkind, rfl⟩, hout⟩ :=
        hsound ⟨r.id, name, spec, out⟩ (mem_connections.2 ⟨r, hr, rfl, hmem, harg⟩)
      exact .connection (Literal.reference?_reference out) hkind hout.leads

/-- **References.** In the prompt of a graph every value of an input has one of three origins. A
literal that was handed in when the node was added, by a caller or by a build procedure, is passed
on as it is; so is the default, if nothing was handed in; and a connection that was handed in has
become a reference, whose id is the key of an entry and whose place is that of an output, of the
kind of the input, that the definition of that entry's node declares. -/
theorem references_lead (config : GraphConfig) (ops : List Operation) {p : Prompt}
    (hp : ((empty config).applyAll ops).compile = .ok p) :
    let g := (empty config).applyAll ops
    ∀ id entry, (id, entry) ∈ p.entries → ∀ (name : String) (value : Literal),
      entry.inputs[name]? = some value →
      ∃ r ∈ g.nodes, r.id = id ∧ ∃ spec, (name, spec) ∈ r.definition.inputs ∧
        ∃ args, AddedWith (sinceClear ((empty config).history ops)) r args ∧
          g.Origin p spec args[name]? value := by
  intro g id entry hentry name value hvalue
  have hg : g.Consistent := consistent_applyAll config ops
  have hes : Steps (empty config) ((empty config).history ops) g := steps_history ops _
  obtain ⟨hfault, rfl⟩ := okUnless_eq_ok_iff.1 (compile_eq g ▸ hp)
  obtain ⟨r, hr, hrecord⟩ := List.mem_map.1 hentry
  obtain ⟨rfl, rfl⟩ := Prod.mk.inj hrecord
  have hr : r ∈ g.nodes := Array.mem_toList_iff.1 hr
  obtain ⟨args, hadded, hargs⟩ := hes.exists_addedWith hr
  obtain ⟨spec, hspec, horigin⟩ :=
    exists_origin ((firstFault?_eq_none_iff hg).1 hfault) hr hargs hvalue
  exact ⟨r, hr, rfl, spec, hspec, args, hadded, horigin⟩

/-- A literal in the shape of a reference to node 99. -/
def stray : Literal := ⟨.array [.string "99", .number (.integer 0 (by decide))], by trivial⟩

/-- A `relay` is given that literal, and another one is connected to the first. -/
def strayRun : List Operation :=
  [.addNode relay (.ofList [("in", Arg.literal stray)]) none, .addNode relay (relayArgs 1) none]

lemma compile_strayRun :
    let g := (empty {}).applyAll strayRun
    g.compile = .ok g.document :=
  compile_of_isNone _ (by decide +kernel)

/-- A value in the shape of a reference, among those of a prompt. -/
lemma exists_value_of_any {id : NodeId} {name : String} {ref : String × Nat}
    (h : (p.entries.any fun e => e.1 = id ∧ e.2.inputs[name]?.bind Literal.reference? = some ref) =
      true) :
    ∃ entry value, (id, entry) ∈ p.entries ∧ entry.inputs[name]? = some value ∧
      value.reference? = some ref := by
  obtain ⟨⟨_, entry⟩, hentry, h⟩ := List.any_eq_true.1 h
  obtain ⟨rfl, href⟩ := of_decide_eq_true h
  obtain ⟨value, hvalue, href⟩ := Option.bind_eq_some_iff.1 href
  exact ⟨entry, value, hentry, hvalue, href⟩

theorem strayRun_origin :
    let g := (empty {}).applyAll strayRun
    g.compile = .ok g.document ∧ ∃ value : Literal, value.reference? = some ("1", 0) ∧
      ∃ r ∈ g.nodes, r.id = 2 ∧ ∃ spec, ("in", spec) ∈ r.definition.inputs ∧
        ∃ args, AddedWith (sinceClear ((empty {}).history strayRun)) r args ∧
          g.Origin g.document spec args["in"]? value := by
  intro g
  obtain ⟨entry, value, hentry, hvalue, href⟩ : ∃ entry value, (2, entry) ∈ g.document.entries ∧
      entry.inputs["in"]? = some value ∧ value.reference? = some ("1", 0) :=
    exists_value_of_any (by decide +kernel)
  exact ⟨compile_strayRun, value, href,
    references_lead {} strayRun compile_strayRun 2 entry hentry "in" value hvalue⟩

/-- The literal is passed on, though the prompt has no entry that it could refer to. -/
theorem strayRun_dangles :
    let g := (empty {}).applyAll strayRun
    g.compile = .ok g.document ∧
    (∃ entry value, (1, entry) ∈ g.document.entries ∧ entry.inputs["in"]? = some value ∧
      value.reference? = some ("99", 0)) ∧
    ∀ kind, ¬ g.Leads g.document "99" 0 kind := by
  intro g
  refine ⟨compile_strayRun, exists_value_of_any (by decide +kernel), ?_⟩
  rintro kind ⟨r, -, hid, hkey, -⟩
  have hkeys : "99" ∉ g.document.ids.map toString := by decide +kernel
  exact hkeys (List.mem_map.2 ⟨r.id, hid, hkey⟩)

end Graph

end PromptGraph
