import PromptGraph.Proofs.Wiring

/-!
How additions make a graph grow.

Between two clears a graph only grows: behind the nodes that it has comes one for every primitive
addition that succeeds, whether a caller makes it or a build procedure. An addition that fails may
thus leave nodes, those that build procedures had added on its behalf before it failed, and it
leaves nothing else.
-/

namespace PromptGraph

/-- The node that an event adds to a graph. -/
def Event.record? (strict : Bool) : Event → Option NodeRecord
  | .added d args label (.ok handle) =>
    match args.resolve strict d.typeName d.inputs with
    | .ok given => some ⟨handle.id, d, label, given⟩
    | .error _ => none
  | _ => none

/-- An event that adds a node is the addition of that node, with arguments that resolve to its
arguments. -/
lemma Event.record?_eq_some {strict : Bool} {e : Event} {r : NodeRecord}
    (h : e.record? strict = some r) :
    ∃ args handle, handle.id = r.id ∧ e = .added r.definition args r.label (.ok handle) ∧
      args.resolve strict r.definition.typeName r.definition.inputs = .ok r.args := by
  unfold Event.record? at h
  split at h
  · rename_i d args label handle
    split at h
    · rename_i given hr
      obtain rfl := Option.some.inj h
      exact ⟨args, handle, rfl, rfl, hr⟩
    · cases h
  · cases h

namespace Graph

variable {g h k : Graph}

/-- The second graph is the first with more nodes. -/
structure Grown (g : Graph) (new : List NodeRecord) (h : Graph) : Prop where
  config_eq : h.config = g.config
  nodes_eq : h.nodes.toList = g.nodes.toList ++ new
  nextId_eq : h.nextId.toNat = g.nextId.toNat + new.length

lemma Grown.refl (g : Graph) : Grown g [] g := ⟨rfl, by simp, rfl⟩

lemma Grown.trans {new more : List NodeRecord} (hgh : Grown g new h) (hhk : Grown h more k) :
    Grown g (new ++ more) k where
  config_eq := hhk.config_eq.trans hgh.config_eq
  nodes_eq := by rw [hhk.nodes_eq, hgh.nodes_eq, List.append_assoc]
  nextId_eq := by rw [hhk.nextId_eq, hgh.nextId_eq, List.length_append, Nat.add_assoc]

lemma grown_push (hid : g.nextId ≠ lastId) (d : NodeDefinition) (args : Args)
    (label : Option String) :
    Grown g [⟨g.nextId, d, label, args⟩] (g.push d args label).2 where
  config_eq := rfl
  nodes_eq := by simp
  nextId_eq := toNat_add_one hid

/-- A step other than a clear adds the node of its event. -/
lemma Step.grown {e : Event} (s : Step g e h) (he : e.isClear = false) :
    Grown g (e.record? g.config.strict).toList h := by
  cases s with
  | cleared => cases he
  | added d args label =>
    obtain ⟨e, hadd⟩ | ⟨given, hr, hid, hadd⟩ := addNode_cases g d args label
    · rw [hadd]
      exact .refl g
    · have hrecord : Event.record? g.config.strict (.added d args label (.ok
          (g.push d given label).1)) = some ⟨g.nextId, d, label, given⟩ := by
        simp only [Event.record?, hr]
        rfl
      rw [hadd, hrecord]
      exact grown_push hid d given label
  | opened s args => exact .refl g
  | closed s label returned => exact .refl g

/-- Between clears a graph grows by the nodes of its events. -/
lemma Steps.grown {es : List Event} (hes : Steps g es h) (hclear : ∀ e ∈ es, e.isClear = false) :
    Grown g (es.filterMap (·.record? g.config.strict)) h := by
  induction hes with
  | refl => exact .refl g
  | @tail es e h k hes s ih =>
    have hgh := ih fun e he => hclear e (List.mem_append_left _ he)
    have hhk := s.grown (hclear e (by simp))
    rw [hgh.config_eq] at hhk
    rw [List.filterMap_append, List.filterMap_cons, List.filterMap_nil]
    cases hr : e.record? g.config.strict with
    | none => simpa [hr] using hgh.trans hhk
    | some r => simpa [hr] using hgh.trans hhk

/-- The nodes of a graph are those of its events since the last clear. -/
lemma Steps.nodes_eq {es : List Event} (hes : Steps g es h) (hg : g.nodes = #[]) :
    h.nodes.toList = (sinceClear es).filterMap (·.record? g.config.strict) := by
  induction hes with
  | refl => simp [hg]
  | @tail es e h k hes s ih =>
    cases he : e.isClear with
    | true =>
      cases s with
      | cleared => simp [sinceClear_snoc_of_isClear he, clear]
      | added | opened | closed => cases he
    | false =>
      rw [(s.grown he).nodes_eq, ih, hes.config_eq, sinceClear_snoc he, List.filterMap_append]
      cases hr : e.record? g.config.strict <;> simp [hr]

/-- Build procedures do not clear. -/
lemma not_isClear_of_mem_events (p : Procedure) (g : Graph) :
    ∀ e ∈ g.events p, e.isClear = false := by
  induction p generalizing g with
  | finish _ => simp [events]
  | fail _ => simp [events]
  | addNode d args label next ih =>
    intro e he
    rcases List.mem_cons.1 he with rfl | he
    · rfl
    · exact ih _ _ e he
  | addSubgraph s build args label next ihBuild ihNext =>
    intro e he
    unfold events at he
    cases ha : s.admit g.config.strict args with
    | error e =>
      rw [ha] at he
      rcases List.mem_cons.1 he with rfl | he
      · rfl
      · exact ihNext _ _ _ he
    | ok given =>
      rw [ha] at he
      rcases List.mem_append.1 he with he | he
      · rcases List.mem_cons.1 he with rfl | he
        · rfl
        · exact ihBuild given g e he
      · rcases List.mem_cons.1 he with rfl | he
        · rfl
        · exact ihNext _ _ e he

lemma not_isClear_of_mem_subgraphEvents (g : Graph) (d : SubgraphDefinition) (args : Args)
    (label : Option String) : ∀ e ∈ g.subgraphEvents d args label, e.isClear = false := by
  intro e he
  unfold subgraphEvents at he
  cases ha : d.admit g.config.strict args with
  | error e =>
    rw [ha] at he
    rw [List.mem_singleton.1 he]
    rfl
  | ok given =>
    rw [ha] at he
    rcases List.mem_append.1 he with he | he
    · rcases List.mem_cons.1 he with rfl | he
      · rfl
      · exact not_isClear_of_mem_events _ g e he
    · rw [List.mem_singleton.1 he]
      rfl

lemma not_isClear_of_mem_operationEvents (g : Graph) (d : Definition) (args : Args)
    (label : Option String) : ∀ e ∈ g.operationEvents (.add d args label), e.isClear = false := by
  cases d with
  | node d =>
    intro e he
    rw [List.mem_singleton.1 he]
    rfl
  | subgraph d => exact not_isClear_of_mem_subgraphEvents g d args label

lemma grown_add (g : Graph) (d : Definition) (args : Args) (label : Option String) :
    Grown g ((g.operationEvents (.add d args label)).filterMap (·.record? g.config.strict))
      (g.add d args label).2 :=
  (steps_apply g (.add d args label)).grown (not_isClear_of_mem_operationEvents g d args label)

/-- The index of a graph is determined by its nodes. -/
lemma Consistent.eq_of_nodes_eq (hg : g.Consistent) (hh : h.Consistent)
    (hconfig : h.config = g.config) (hnodes : h.nodes = g.nodes) (hnext : h.nextId = g.nextId) :
    h = g := by
  have hplaces : h.places = g.places := by
    apply Std.ExtTreeMap.ext_getElem?
    intro id
    apply Option.ext
    intro i
    simp only [hh.places_iff, hg.places_iff, hnodes]
  obtain ⟨_, _, _, _⟩ := g
  obtain ⟨_, _, _, _⟩ := h
  simp only at hconfig hnodes hnext hplaces
  subst hconfig hnodes hnext hplaces
  rfl

lemma Grown.eq_iff {new : List NodeRecord} (hgh : Grown g new h) (hg : g.Consistent)
    (hh : h.Consistent) : h = g ↔ new = [] := by
  constructor
  · rintro rfl
    simpa using hgh.nodes_eq
  · rintro rfl
    refine hg.eq_of_nodes_eq hh hgh.config_eq ?_ (UInt64.toNat_inj.1 (by simpa using hgh.nextId_eq))
    exact Array.toList_inj.1 (by simpa using hgh.nodes_eq)

lemma Grown.node?_eq_some_iff {new : List NodeRecord} (hgh : Grown g new h) (hg : g.Consistent)
    (hh : h.Consistent) {id : NodeId} {r : NodeRecord} :
    h.node? id = some r ↔ g.node? id = some r ∨ (r ∈ new ∧ r.id = id) := by
  rw [hh.node?_eq_some_iff, hg.node?_eq_some_iff, ← Array.mem_toList_iff, hgh.nodes_eq,
    List.mem_append, Array.mem_toList_iff, or_and_right]

/-! ### Additions of any outcome -/

/-- What holds at the end of a history holds at any time of it. -/
lemma steps_take (config : GraphConfig) (ops : List Operation) (n : Nat) :
    Steps (empty config) (((empty config).history ops).take n)
      ((empty config).after (((empty config).history ops).take n)) := by
  have hes := steps_history ops (empty config)
  rw [← List.take_append_drop n ((empty config).history ops)] at hes
  exact hes.split.1

/-- **Additions only append.** Take a graph at any time of a history, in build procedures as well,
and add a definition, whether that succeeds or fails. The configuration stays and every node stays
in its place; behind them come exactly the nodes that primitive additions have made on the way, and
the counter goes up by one for each. A lookup finds what it found before, and these nodes. -/
theorem additions_only_append (config : GraphConfig) (ops : List Operation) (n : Nat)
    (d : Definition) (args : Args) (label : Option String) :
    let g := (empty config).after (((empty config).history ops).take n)
    let h := (g.add d args label).2
    let new := (g.operationEvents (.add d args label)).filterMap (·.record? config.strict)
    h.config = g.config ∧ h.nodes.toList = g.nodes.toList ++ new ∧
    (∀ id r, g.node? id = some r → h.node? id = some r) ∧
    (∀ id r, h.node? id = some r → g.node? id = some r ∨ (r ∈ new ∧ r.id = id)) ∧
    h.nextId.toNat = g.nextId.toNat + new.length := by
  intro g h new
  have hes : Steps (empty config) _ g := steps_take config ops n
  have hg : g.Consistent := hes.invariant (fun hg s => hg.step s) (consistent_empty config)
  have hh : h.Consistent :=
    (steps_apply g (.add d args label)).invariant (fun hg s => hg.step s) hg
  have hgrown : Grown g new h := by
    have hgrown := grown_add g d args label
    rwa [hes.config_eq] at hgrown
  exact ⟨hgrown.config_eq, hgrown.nodes_eq,
    fun id r hr => (hgrown.node?_eq_some_iff hg hh).2 (.inl hr),
    fun id r hr => (hgrown.node?_eq_some_iff hg hh).1 hr, hgrown.nextId_eq⟩

/-! ### Additions that fail -/

/-- An addition that fails before a build procedure runs leaves the graph as it was. -/
lemma add_eq_of_error {d : Definition} {args : Args} {label : Option String} {e : BuildError}
    (he : (g.add d args label).1 = .error e)
    (hrun : ∀ s given, d = .subgraph s → s.admit g.config.strict args ≠ .ok given) :
    (g.add d args label).2 = g := by
  cases d with
  | node d =>
    cases ha : (g.addNode d args label).1 with
    | error e => simp [add, addNode_of_error ha]
    | ok handle => simp [add, ha, Except.map] at he
  | subgraph d =>
    cases ha : d.admit g.config.strict args with
    | error e => simp [add, addSubgraph, ha]
    | ok given => exact absurd ha (hrun d given rfl)

/-- **Failed additions.** An addition that fails leaves the graph with the nodes that it had, and
behind them exactly those that build procedures had added on its behalf. Where there are none, the
graph is as it was; so it is in particular if no build procedure ran. -/
theorem failed_add_leaves (config : GraphConfig) (ops : List Operation) (d : Definition)
    (args : Args) (label : Option String) (e : BuildError)
    (he : (((empty config).applyAll ops).add d args label).1 = .error e) :
    let g := (empty config).applyAll ops
    let h := (g.add d args label).2
    let left := (g.operationEvents (.add d args label)).filterMap (·.record? config.strict)
    h.config = g.config ∧ h.nodes.toList = g.nodes.toList ++ left ∧
    h.nextId.toNat = g.nextId.toNat + left.length ∧
    (∀ id r, h.node? id = some r ↔ g.node? id = some r ∨ (r ∈ left ∧ r.id = id)) ∧
    (h = g ↔ left = []) ∧
    ((∀ s given, d = .subgraph s → s.admit config.strict args ≠ .ok given) → h = g) := by
  intro g h left
  have hconfig : g.config = config := config_applyAll config ops
  have hg : g.Consistent := consistent_applyAll config ops
  have hh : h.Consistent :=
    (steps_apply g (.add d args label)).invariant (fun hg s => hg.step s) hg
  have hgrown : Grown g left h := by
    have hgrown := grown_add g d args label
    rwa [hconfig] at hgrown
  refine ⟨hgrown.config_eq, hgrown.nodes_eq, hgrown.nextId_eq,
    fun id r => hgrown.node?_eq_some_iff hg hh, hgrown.eq_iff hg hh, fun hrun => ?_⟩
  rw [← hconfig] at hrun
  exact add_eq_of_error he hrun

/-- A subgraph whose procedure adds a node and then returns an output that is not declared. -/
def leaky : SubgraphDefinition :=
  { relayed with
    procedure := fun _ => .addNode relay ∅ none fun
      | .error e => .fail e
      | .ok handle => .finish (.ofList (handle.outputs ++ [("extra", ⟨⟨"image"⟩, handle.id, 0⟩)])) }

/-- The node stays after the addition has failed, and takes an id and a place in the prompt. -/
theorem leaky_leaves_node :
    let g := empty {}
    let h := (g.add (.subgraph leaky) ∅ none).2
    (g.add (.subgraph leaky) ∅ none).1 =
      .error (.outputMismatch "Relayed" (.undeclared ["extra"])) ∧
    g.nodes.toList.map (·.id) = [] ∧ h.nodes.toList.map (·.id) = [1] ∧ g.nextId = 1 ∧
    h.nextId = 2 ∧ h.compile = .ok ⟨[(1, ⟨"Relay", ∅, none⟩)]⟩ := by
  exact ⟨rfl, rfl, rfl, rfl, rfl, rfl⟩

theorem failed_add_leaves_leaky :
    let g := (empty {}).applyAll [.addNode relay ∅ none]
    let h := (g.add (.subgraph leaky) ∅ none).2
    let left := (g.operationEvents (.add (.subgraph leaky) ∅ none)).filterMap (·.record? true)
    (g.add (.subgraph leaky) ∅ none).1 =
      .error (.outputMismatch "Relayed" (.undeclared ["extra"])) ∧
    h.config = g.config ∧ h.nodes.toList = g.nodes.toList ++ left ∧
    h.nextId.toNat = g.nextId.toNat + left.length ∧
    (∀ id r, h.node? id = some r ↔ g.node? id = some r ∨ (r ∈ left ∧ r.id = id)) ∧
    (h = g ↔ left = []) ∧
    ((∀ s given, Definition.subgraph leaky = .subgraph s → s.admit true ∅ ≠ .ok given) → h = g) :=
  have he : (((empty {}).applyAll [.addNode relay ∅ none]).add (.subgraph leaky) ∅ none).1 =
      .error (.outputMismatch "Relayed" (.undeclared ["extra"])) := rfl
  ⟨he, failed_add_leaves {} [.addNode relay ∅ none] (.subgraph leaky) ∅ none _ he⟩

end Graph

end PromptGraph
