import PromptGraph.Proofs.Wiring

/-!
The ids that a graph hands out over its whole history.

A clear discards the nodes, so the nodes at the end do not tell which ids were ever handed out; the
events do. Every primitive addition that succeeds hands out the counter and counts on by one, and
nothing else touches the counter but a clear with stable ids.
-/

namespace PromptGraph

/-- The id that an event hands out. -/
def Event.issued? : Event → Option NodeId
  | .added _ _ _ (.ok handle) => some handle.id
  | _ => none

namespace Graph

/-- The ids that are handed out, in order of time. -/
def issued (es : List Event) : List NodeId := es.filterMap (·.issued?)

/-- In the events an addition has failed for lack of an id, `id` being the next, and the ids have
not started again since. -/
def Exhausted (config : GraphConfig) (es : List Event) (id : NodeId) : Prop :=
  ∃ before d args label since,
    es = before ++ .added d args label (.error (.idSpaceExhausted id)) :: since ∧
    ∀ e ∈ since, e.restarts config.stableIds = false

variable {g h : Graph} {e : Event} {es : List Event}

/-! ### What is handed out -/

/-- A step hands out the counter and counts on, or it hands out nothing and the counter stays,
unless it starts again. -/
lemma Step.issue (s : Step g e h) :
    (e.issued? = some g.nextId ∧ g.nextId ≠ lastId ∧ h.nextId = g.nextId + 1) ∨
    (e.issued? = none ∧ (e.restarts g.config.stableIds = false → h.nextId = g.nextId)) := by
  cases s with
  | cleared =>
    refine .inr ⟨rfl, fun hgoes => ?_⟩
    have hstable : g.config.stableIds = false := by
      simpa [Event.restarts, Event.isClear] using hgoes
    simp [clear, hstable]
  | added d args label =>
    obtain ⟨e, hadd⟩ | ⟨given, -, hid, hadd⟩ := addNode_cases g d args label
    · rw [hadd]
      exact .inr ⟨rfl, fun _ => rfl⟩
    · rw [hadd]
      exact .inl ⟨rfl, hid, rfl⟩
  | opened s args => exact .inr ⟨rfl, fun _ => rfl⟩
  | closed s label returned => exact .inr ⟨rfl, fun _ => rfl⟩

/-- The counter never falls, unless it starts again. -/
lemma Step.nextId_le (s : Step g e h) (hgoes : e.restarts g.config.stableIds = false) :
    g.nextId ≤ h.nextId := by
  rw [UInt64.le_iff_toNat_le]
  obtain ⟨-, hid, hnext⟩ | ⟨-, hnext⟩ := s.issue
  · rw [hnext, toNat_add_one hid]
    omega
  · rw [hnext hgoes]

@[simp] lemma issued_snoc : issued (es ++ [e]) = issued es ++ e.issued?.toList := by
  rw [issued, List.filterMap_append, ← issued]
  cases he : e.issued? <;> simp [he]

/-- Without stable ids everything from the counter at the start up to the counter at the end is
handed out, in order. -/
lemma Steps.issued_eq (hes : Steps g es h) (hstable : g.config.stableIds = false) :
    g.nextId.toNat ≤ h.nextId.toNat ∧
    (issued es).map UInt64.toNat =
      List.range' g.nextId.toNat (h.nextId.toNat - g.nextId.toNat) := by
  induction hes with
  | refl => exact ⟨le_rfl, by simp [issued]⟩
  | tail hes s ih =>
    obtain ⟨hle, hissued⟩ := ih
    rw [issued_snoc]
    obtain ⟨hnew, hid, hnext⟩ | ⟨hnone, hnext⟩ := s.issue
    · rw [hnew, hnext, toNat_add_one hid, List.map_append, hissued]
      refine ⟨by omega, ?_⟩
      rw [Nat.succ_sub hle, List.range'_1_concat]
      simp [hle]
    · rw [hnone, hnext (by simp [Event.restarts, hes.config_eq, hstable])]
      exact ⟨hle, by simpa using hissued⟩

lemma Steps.last_not_issued (hes : Steps g es h) : lastId ∉ issued es := by
  induction hes with
  | refl => simp [issued]
  | tail hes s ih =>
    obtain ⟨hnew, hid, -⟩ | ⟨hnone, -⟩ := s.issue
    · simpa [hnew, ih] using hid.symm
    · simpa [hnone] using ih

/-! ### When the ids are exhausted -/

lemma Step.addNode_eq {d : NodeDefinition} {args : Args} {label : Option String}
    {answer : Except BuildError NodeHandle} (s : Step g (.added d args label answer) h) :
    g.addNode d args label = (answer, h) := by
  cases s
  rfl

lemma addNode_of_exhausted {d : NodeDefinition} {args given : Args}
    (hargs : args.resolve g.config.strict d.typeName d.inputs = .ok given)
    (hspent : g.nextId = lastId) (label : Option String) :
    g.addNode d args label = (.error (.idSpaceExhausted lastId), g) := by
  simp [addNode, hargs, hspent]

/-- Additions fail for lack of an id only when the last one is next, and name that one. -/
lemma nextId_of_addNode_exhausted {d : NodeDefinition} {args : Args} {label : Option String}
    {id : NodeId} (h : (g.addNode d args label).1 = .error (.idSpaceExhausted id)) :
    g.nextId = lastId ∧ id = lastId := by
  obtain hr | ⟨-, hspent, he⟩ := addNode_eq_error_iff.1 h
  · obtain ⟨name, he⟩ | ⟨name, he⟩ := Args.resolve_error_cases hr <;> cases he
  · exact ⟨hspent, BuildError.idSpaceExhausted.inj he⟩

/-- After an addition has failed for lack of an id, the last one stays next until the ids start
again. -/
lemma Steps.nextId_of_exhausted {config : GraphConfig} {id : NodeId}
    (hes : Steps (empty config) es g) (hexhausted : Exhausted config es id) :
    g.nextId = lastId ∧ id = lastId := by
  obtain ⟨before, d, args, label, since, rfl, hgoes⟩ := hexhausted
  have hbefore := hes.split.1
  obtain ⟨s, hsince⟩ := hes.at_event
  obtain ⟨hspent, hid⟩ := nextId_of_addNode_exhausted (congrArg Prod.fst s.addNode_eq)
  -- the failed addition leaves the graph as it was
  have hsame := (Steps.single s).exhausted hspent (by simp [Event.restarts, Event.isClear])
  have hconfig := (hbefore.trans (.single s)).config_eq
  exact ⟨hsince.exhausted hsame (by rwa [hconfig]), hid⟩

/-- **Ids are never used twice.** Unless it starts again the counter never falls, and the last id
is never handed out. Without stable ids the ids that are handed out over the whole history, within
build procedures and across clears, are exactly those from the first up to the counter, in order.
Once an addition has failed for lack of an id, every later one whose arguments resolve fails with
the same error and leaves the graph as it is, until the ids start again. -/
theorem ids_never_reused (config : GraphConfig) (ops : List Operation) :
    let start := empty config
    let es := start.history ops
    let g := start.applyAll ops
    start.after es = g ∧
    (∀ before e rest, es = before ++ e :: rest → e.restarts config.stableIds = false →
      (start.after before).nextId ≤ (start.after (before ++ [e])).nextId) ∧
    lastId ∉ issued es ∧
    (config.stableIds = false → config.idStart.toNat ≤ g.nextId.toNat ∧
      (issued es).map UInt64.toNat =
        List.range' config.idStart.toNat (g.nextId.toNat - config.idStart.toNat)) ∧
    (∀ before d args label answer rest id given,
      es = before ++ .added d args label answer :: rest → Exhausted config before id →
      args.resolve config.strict d.typeName d.inputs = .ok given →
      id = lastId ∧ answer = .error (.idSpaceExhausted id) ∧
      (start.after before).addNode d args label = (answer, start.after before)) := by
  intro start es g
  have hes : Steps start es g := steps_history ops start
  refine ⟨hes.eq_after.symm, ?_, hes.last_not_issued, fun hstable => hes.issued_eq hstable, ?_⟩
  · intro before e rest hsplit hgoes
    rw [hsplit] at hes
    have hconfig : (start.after before).config = config := hes.split.1.config_eq
    exact hes.at_event.1.nextId_le (hconfig ▸ hgoes)
  · intro before d args label answer rest id given hsplit hexhausted hargs
    rw [hsplit] at hes
    have hbefore := hes.split.1
    obtain ⟨hspent, rfl⟩ := hbefore.nextId_of_exhausted hexhausted
    have hconfig : (start.after before).config = config := hbefore.config_eq
    have hadd := addNode_of_exhausted (hconfig ▸ hargs) hspent label
    obtain rfl : answer = .error (.idSpaceExhausted lastId) := by
      rw [hes.at_event.1.addNode_eq] at hadd
      exact congrArg Prod.fst hadd
    exact ⟨rfl, rfl, hadd⟩

/-- An addition takes the last id there is, the one in a build procedure fails, and a clear does not
help. -/
def lateRun : List Operation :=
  [.addNode relay ∅ none, .addSubgraph relayed ∅ none, .clear]

theorem lateRun_exhausted :
    let config : GraphConfig := { idStart := 18446744073709551614, stableIds := false }
    let start := empty config
    let es := start.history lateRun
    issued es = [18446744073709551614] ∧ Exhausted config es lastId ∧
    (start.after es).addNode relay ∅ none =
      (.error (.idSpaceExhausted lastId), start.after es) := by
  intro config start es
  have hexhausted : Exhausted config es lastId :=
    ⟨es.take 2, relay, ∅, none, es.drop 3, rfl, fun e _ => rfl⟩
  obtain ⟨-, -, -, -, hfails⟩ := ids_never_reused config (lateRun ++ [.addNode relay ∅ none])
  obtain ⟨-, -, hadd⟩ := hfails es relay ∅ none _ [] lastId ∅ rfl hexhausted rfl
  exact ⟨rfl, hexhausted, hadd⟩

end Graph

end PromptGraph
