import Mathlib.Data.List.DropRight
import PromptGraph.Proofs.Compile

/-!
Graphs that are wired with their own handles only.

An output that some handle of the graph exposes is on hand until the graph is cleared. If
everything that is passed around is on hand, then whatever is on hand is an output of a node of
the graph, and every node is connected to earlier nodes only.
-/

namespace PromptGraph

/-- What has happened since the last clear. -/
def sinceClear (es : List Event) : List Event := es.rtakeWhile (!·.isClear)

/-- The outputs that handles have exposed since the last clear. -/
def onHand (es : List Event) : List Out := (sinceClear es).flatMap (·.exposes)

/-- Whatever is handed in is on hand at that time. -/
def SelfWired (es : List Event) : Prop :=
  ∀ i, ∀ hi : i < es.length, ∀ out ∈ es[i].uses, out ∈ onHand (es.take i)

instance (es : List Event) : Decidable (SelfWired es) :=
  inferInstanceAs (Decidable (∀ i, ∀ hi : i < es.length, ∀ out ∈ es[i].uses, _))

section

variable {es : List Event} {e : Event} {out : Out}

@[simp] lemma sinceClear_nil : sinceClear [] = [] := rfl

lemma sinceClear_snoc_of_isClear (he : e.isClear = true) : sinceClear (es ++ [e]) = [] := by
  simp [sinceClear, he]

lemma sinceClear_snoc (he : e.isClear = false) :
    sinceClear (es ++ [e]) = sinceClear es ++ [e] := by
  simp [sinceClear, he]

lemma onHand_cleared : onHand (es ++ [.cleared]) = [] := by
  rw [onHand, sinceClear_snoc_of_isClear rfl, List.flatMap_nil]

lemma mem_onHand_snoc (he : e.isClear = false) :
    out ∈ onHand (es ++ [e]) ↔ out ∈ onHand es ∨ out ∈ e.exposes := by
  simp [onHand, sinceClear_snoc he]

/-- A history that is wired with its own handles was so before its last event. -/
lemma SelfWired.snoc (h : SelfWired (es ++ [e])) :
    SelfWired es ∧ ∀ out ∈ e.uses, out ∈ onHand es := by
  constructor
  · intro i hi out hout
    have := h i (by simp; omega) out (by rwa [List.getElem_append_left hi])
    rwa [List.take_append_of_le_length (by omega)] at this
  · intro out hout
    have := h es.length (by simp) out (by simpa using hout)
    simpa using this

end

namespace Graph

variable {g h : Graph} {out : Out}

lemma Declares.push (hout : g.Declares out) (d : NodeDefinition) (args : Args)
    (label : Option String) : (g.push d args label).2.Declares out := by
  obtain ⟨r, hr, hdecl⟩ := hout
  exact ⟨r, Array.mem_push.2 (.inl hr), hdecl⟩

/-- The handle of a new node exposes outputs that the node declares. -/
lemma declares_of_handle {d : NodeDefinition} {args : Args} {label : Option String}
    (hout : out ∈ (g.push d args label).1.outputs.map Prod.snd) :
    (g.push d args label).2.Declares out := by
  simp only [Graph.push, List.map_map, List.mem_map, Function.comp_apply] at hout
  obtain ⟨o, ho, rfl⟩ := hout
  exact ⟨_, Array.mem_push_self, rfl, o, ho, rfl, rfl⟩

lemma Declares.node_lt (hg : g.Consistent) (hout : g.Declares out) :
    out.node < g.nextId := by
  obtain ⟨r, hr, hid, -⟩ := hout
  rw [← hid]
  exact UInt64.lt_iff_toNat_lt.2 (hg.id_lt hr)

/-- The connections after one more node: those there were, and those of its arguments. -/
lemma connection_of_push {d : NodeDefinition} {args : Args} {label : Option String}
    {c : Connection} (hc : c ∈ (g.push d args label).2.connections) :
    c ∈ g.connections ∨ (c.node = g.nextId ∧ args[c.input]? = some (.connection c.out)) := by
  obtain ⟨r, hr, hnode, hinput, hout⟩ := mem_connections.1 hc
  rcases Array.mem_push.1 hr with hr | rfl
  · exact .inl (mem_connections.2 ⟨r, hr, hnode, hinput, hout⟩)
  · exact .inr ⟨hnode, hout⟩

/-- What is on hand is declared, and nodes are connected to earlier ones only. -/
structure Wired (es : List Event) (g : Graph) : Prop where
  declares : ∀ out ∈ onHand es, g.Declares out
  earlier : ∀ c ∈ g.connections, g.Declares c.out ∧ c.out.node < c.node

lemma Wired.step {es : List Event} {e : Event} (hg : g.Consistent) (hw : Wired es g)
    (huses : ∀ out ∈ e.uses, out ∈ onHand es) (s : Step g e h) : Wired (es ++ [e]) h := by
  obtain ⟨rfl, hclear, -, hexposes⟩ | ⟨rfl, rfl⟩ | ⟨d, args, given, label, hr, -, rfl, rfl⟩ :=
    s.effect
  · refine ⟨fun out hout => hw.declares out ?_, hw.earlier⟩
    rcases (mem_onHand_snoc hclear).1 hout with hout | hout
    · exact hout
    · exact huses out (hexposes out hout)
  · constructor
    · simp [onHand_cleared]
    · simp [connections, clear]
  · have hargs : ∀ out ∈ given.outs, g.Declares out := fun out hout =>
      hw.declares out (huses out (Args.outs_of_resolve d.inputs_nodup hr hout))
    constructor
    · intro out hout
      rcases (mem_onHand_snoc rfl).1 hout with hout | hout
      · exact (hw.declares out hout).push d given label
      · exact declares_of_handle hout
    · intro c hc
      rcases connection_of_push hc with hc | ⟨hnode, hout⟩
      · obtain ⟨hdecl, hlt⟩ := hw.earlier c hc
        exact ⟨hdecl.push d given label, hlt⟩
      · have hdecl := hargs c.out (Args.mem_outs.2 ⟨_, hout⟩)
        rw [hnode]
        exact ⟨hdecl.push d given label, hdecl.node_lt hg⟩

/-- A run that is wired with its own handles keeps the graph wired. -/
lemma Steps.wired {config : GraphConfig} {es : List Event} (hes : Steps (empty config) es g)
    (hself : SelfWired es) : Wired es g := by
  induction hes with
  | refl =>
    constructor
    · simp [onHand]
    · simp [connections, empty]
  | tail hes s ih =>
    obtain ⟨hself, huses⟩ := hself.snoc
    exact (ih hself).step (hes.invariant (fun hg s => hg.step s) (consistent_empty config)) huses s

/-! ### References between entries -/

/-- In the prompt of a graph the entry of one node refers to that of another: a connection of the
first leads to the second, and the prompt has the pair that stands for it. -/
def Refers (g : Graph) (p : Prompt) (i j : NodeId) : Prop :=
  ∃ c ∈ g.connections, c.node = i ∧ c.out.node = j ∧
    ∃ entry, (i, entry) ∈ p.entries ∧ entry.inputs[c.input]? = some (reference c.out)

lemma refers_iff {p : Prompt} (hp : g.compile = .ok p) {i j : NodeId} :
    g.Refers p i j ↔ ∃ c ∈ g.connections, c.node = i ∧ c.out.node = j := by
  constructor
  · rintro ⟨c, hc, hi, hj, -⟩
    exact ⟨c, hc, hi, hj⟩
  · rintro ⟨c, hc, rfl, rfl⟩
    obtain ⟨r, hr, hnode, hinput, hout⟩ := mem_connections.1 hc
    obtain ⟨-, rfl⟩ := okUnless_eq_ok_iff.1 (g.compile_eq ▸ hp)
    refine ⟨c, hc, rfl, rfl, r.entry, ?_, ?_⟩
    · rw [hnode]
      exact List.mem_map_of_mem (f := fun r : NodeRecord => (r.id, r.entry)) (by simpa using hr)
    · rw [NodeRecord.entry_inputs_eq_some_iff, NodeRecord.mem_valuesOf]
      exact ⟨⟨_, hinput, rfl⟩, _, hout, rfl⟩

/-- **Own handles.** In a run that passes around only outputs that the handles of the graph have
exposed since it was last cleared, all of these outputs are there; nothing dangles when the graph
is compiled, and every reference leads from an entry to one with a smaller id. -/
theorem own_handles_topological (config : GraphConfig) (ops : List Operation)
    (hself : SelfWired ((empty config).history ops)) :
    let g := (empty config).applyAll ops
    (∀ out ∈ onHand ((empty config).history ops), g.Declares out) ∧
    (∀ node input producer index,
      g.compile ≠ .error (.danglingReference node input producer index)) ∧
    (∀ p, g.compile = .ok p → ∀ i j, g.Refers p i j → j < i) := by
  intro g
  have hg : g.Consistent := consistent_applyAll config ops
  have hw : Wired _ g := (steps_history ops _).wired hself
  refine ⟨hw.declares, fun node input producer index herr => ?_, fun p hp i j hij => ?_⟩
  · rw [compile_eq, okUnless_eq_error_iff, firstFault?_eq_some_iff hg] at herr
    obtain ⟨before, c, after, hsplit, -, hfault⟩ := herr
    have hc : c ∈ g.connections := by simp [hsplit]
    cases hfault with
    | dangling _ hout => exact hout (hw.earlier c hc).1
  · obtain ⟨c, hc, rfl, rfl, -⟩ := hij
    exact (hw.earlier c hc).2

/-- A node that passes an image on. -/
def relay : NodeDefinition where
  typeName := "Relay"
  inputs := [("in", .connection ⟨"image"⟩)]
  outputs := [("out", ⟨⟨"image"⟩, 0⟩)]
  typeName_notBlank := by decide
  inputs_nodup := by decide
  outputs_nodup := by decide
  indexes_nodup := by decide

/-- A subgraph of one `relay`. -/
def relayed : SubgraphDefinition where
  typeName := "Relayed"
  inputs := [("in", .connection ⟨"image"⟩)]
  outputs := [("out", ⟨⟨"image"⟩⟩)]
  typeName_notBlank := by decide
  inputs_nodup := by decide
  outputs_nodup := by decide
  procedure args := .addNode relay args none fun
    | .error e => .fail e
    | .ok handle => .finish (.ofList handle.outputs)

/-- The output of a `relay` as an argument of the next. -/
def relayArgs (id : NodeId) : Args := .ofList [("in", Arg.connection ⟨⟨"image"⟩, id, 0⟩)]

/-- A graph that is cleared and built again, with a node, a subgraph and a node after it. -/
def relayRun : List Operation :=
  [.addNode relay ∅ none, .clear, .addNode relay ∅ none,
    .addSubgraph relayed (relayArgs 1) none, .addNode relay (relayArgs 2) none]

theorem relayRun_topological :
    let es := (empty {}).history relayRun
    let g := (empty {}).applyAll relayRun
    SelfWired es ∧ (∀ out ∈ onHand es, g.Declares out) ∧
    (∀ node input producer index,
      g.compile ≠ .error (.danglingReference node input producer index)) ∧
    (∀ p, g.compile = .ok p → ∀ i j, g.Refers p i j → j < i) :=
  have hself : SelfWired ((empty {}).history relayRun) := by decide +kernel
  ⟨hself, own_handles_topological {} relayRun hself⟩

end Graph

end PromptGraph
