import Mathlib.Tactic.Lemma
import PromptGraph.Definition.Signature
import PromptGraph.Graph.Resolve

/-!
What resolution gives, input by input: the argument of the caller, or else the default.
-/

namespace PromptGraph

section lookup

variable {α : Type} {xs : List (String × α)} {name : String}

lemma lookup_cons_of_ne {n : String} {x : α} (h : name ≠ n) :
    List.lookup name ((n, x) :: xs) = xs.lookup name := by
  rw [List.lookup_cons, beq_false_of_ne h]

lemma lookup_eq_none_of_not_mem (h : name ∉ xs.map Prod.fst) : xs.lookup name = none := by
  rw [List.lookup_eq_none_iff]
  intro x hx
  have hne : name ≠ x.1 := fun he => h (he ▸ List.mem_map_of_mem hx)
  simpa using hne

/-- With distinct names a lookup finds whatever is there. -/
lemma lookup_of_mem (hnodup : (xs.map Prod.fst).Nodup) {x : String × α} (hx : x ∈ xs) :
    xs.lookup x.1 = some x.2 := by
  induction xs with
  | nil => simp at hx
  | cons y xs ih =>
    obtain ⟨n, y⟩ := y
    obtain ⟨hfresh, hnodup⟩ := List.nodup_cons.1 hnodup
    rcases List.mem_cons.1 hx with rfl | hlater
    · simp
    · have hne : x.1 ≠ n := fun he => hfresh (List.mem_map.2 ⟨x, hlater, he⟩)
      rw [lookup_cons_of_ne hne]
      exact ih hnodup hlater

end lookup

namespace Args

/-- The outputs that arguments are connected to. -/
def outs (args : Args) : List Out := args.toList.filterMap (·.2.connection?)

lemma connection?_eq_some_iff {args : Args} {name : String} {out : Out} :
    args.connection? name = some out ↔ args[name]? = some (.connection out) := by
  unfold Args.connection?
  cases args[name]? with
  | none => simp
  | some arg => cases arg <;> simp [Arg.connection?]

lemma mem_outs {args : Args} {out : Out} :
    out ∈ args.outs ↔ ∃ name : String, args[name]? = some (.connection out) := by
  simp only [outs, List.mem_filterMap, Prod.exists, Std.ExtTreeMap.mem_toList_iff_getElem?_eq_some]
  constructor
  · rintro ⟨name, arg, harg, hout⟩
    cases arg with
    | literal value => cases hout
    | connection out' => exact ⟨name, by rw [harg, Option.some.inj hout]⟩
  · rintro ⟨name, harg⟩
    exact ⟨name, _, harg, rfl⟩

variable {strict : Bool} {typeName : String} {inputs : List (String × InputSpec)}
  {args given : Args}

lemma isDeclared_eq_isSome_lookup (inputs : List (String × InputSpec)) (name : String) :
    isDeclared inputs name = (inputs.lookup name).isSome := by
  induction inputs with
  | nil => rfl
  | cons input inputs ih =>
    obtain ⟨n, spec⟩ := input
    have ih : (inputs.any fun i => i.1 == name) = (inputs.lookup name).isSome := ih
    by_cases hn : n = name
    · simp [isDeclared, hn]
    · have hn' : (name == n) = false := by simpa using Ne.symm hn
      simp [isDeclared, List.lookup_cons, hn, hn', ih]

lemma fill_get (hnodup : (inputs.map Prod.fst).Nodup)
    (h : fill strict typeName inputs args = .ok given) (name : String) :
    given[name]? = args[name]?.or (((inputs.lookup name).bind (·.default)).map .literal) := by
  induction inputs generalizing args with
  | nil =>
    obtain rfl : args = given := by simpa [fill] using h
    simp
  | cons input inputs ih =>
    obtain ⟨n, spec⟩ := input
    obtain ⟨hn, hnodup⟩ := List.nodup_cons.1 hnodup
    have hlookup := lookup_eq_none_of_not_mem hn
    unfold fill at h
    by_cases hc : args.contains n
    · -- the caller gave the argument
      rw [if_pos hc] at h
      rw [ih hnodup h]
      by_cases hname : name = n
      · subst hname
        rw [Std.ExtTreeMap.contains_eq_isSome_getElem?] at hc
        obtain ⟨arg, harg⟩ := Option.isSome_iff_exists.1 hc
        simp [harg]
      · rw [lookup_cons_of_ne hname]
    · rw [if_neg hc] at h
      have hnone : args[n]? = none :=
        Std.ExtTreeMap.getElem?_eq_none_of_contains_eq_false (Bool.eq_false_iff.2 hc)
      cases hd : spec.default with
      | some value =>
        simp only [hd] at h
        rw [ih hnodup h, Std.ExtTreeMap.getElem?_insert]
        by_cases hname : name = n
        · subst hname
          simp [hnone, hd]
        · simp [lookup_cons_of_ne hname, Ne.symm hname]
      | none =>
        simp only [hd] at h
        split at h
        · cases h
        · rw [ih hnodup h]
          by_cases hname : name = n
          · subst hname
            simp [hnone, hd, hlookup]
          · rw [lookup_cons_of_ne hname]

/-- A resolved argument is that of the caller, or else the default of the input. -/
lemma resolve_get (hnodup : (inputs.map Prod.fst).Nodup)
    (h : resolve strict typeName inputs args = .ok given) (name : String) :
    given[name]? = (inputs.lookup name).bind fun spec =>
      args[name]?.or (spec.default.map .literal) := by
  have hfill : fill strict typeName inputs (args.filter fun name _ => isDeclared inputs name) =
      .ok given := by
    unfold resolve at h
    split at h
    · cases h
    · exact h
  rw [fill_get hnodup hfill, Std.ExtTreeMap.getElem?_filter', isDeclared_eq_isSome_lookup]
  cases inputs.lookup name with
  | none => cases args[name]? <;> simp
  | some spec => cases args[name]? <;> simp

/-- Resolution makes no connections. -/
lemma connection_of_resolve (hnodup : (inputs.map Prod.fst).Nodup)
    (h : resolve strict typeName inputs args = .ok given) {name : String} {out : Out}
    (hout : given[name]? = some (.connection out)) : args[name]? = some (.connection out) := by
  rw [resolve_get hnodup h, Option.bind_eq_some_iff] at hout
  obtain ⟨spec, -, hout⟩ := hout
  cases harg : args[name]? with
  | some arg => simpa [harg] using hout
  | none => simp [harg] at hout

lemma outs_of_resolve (hnodup : (inputs.map Prod.fst).Nodup)
    (h : resolve strict typeName inputs args = .ok given) {out : Out} (hout : out ∈ given.outs) :
    out ∈ args.outs := by
  obtain ⟨name, hname⟩ := mem_outs.1 hout
  exact mem_outs.2 ⟨name, connection_of_resolve hnodup h hname⟩

/-! ### Resolved arguments -/

/-- Arguments as resolution leaves them: for declared inputs only, and for every input that has a
default or, in a strict resolution, is required. -/
structure Complete (strict : Bool) (inputs : List (String × InputSpec)) (args : Args) : Prop where
  declared : ∀ name : String, name ∈ args → isDeclared inputs name = true
  covered : ∀ input ∈ inputs,
    input.1 ∈ args ∨ (input.2.default = none ∧ (input.2.required && strict) = false)

lemma undeclared_eq_nil_iff :
    args.undeclared inputs = [] ↔ ∀ name : String, name ∈ args → isDeclared inputs name = true := by
  simp [undeclared, List.filter_eq_nil_iff]

/-- A strict resolution lets declared names pass only. -/
lemma isDeclared_of_resolve (h : resolve true typeName inputs args = .ok given) {name : String}
    (hname : name ∈ args) : isDeclared inputs name = true := by
  refine undeclared_eq_nil_iff.1 ?_ name hname
  unfold resolve at h
  split at h
  · cases h
  · rename_i hpasses
    cases hunknown : args.undeclared inputs with
    | nil => rfl
    | cons name names => exact absurd rfl (hpasses name names hunknown)

lemma mem_of_fill (hnodup : (inputs.map Prod.fst).Nodup)
    (h : fill strict typeName inputs args = .ok given) {name : String} (hname : name ∈ args) :
    name ∈ given := by
  rw [Std.ExtTreeMap.mem_iff_isSome_getElem?] at hname ⊢
  obtain ⟨arg, harg⟩ := Option.isSome_iff_exists.1 hname
  rw [fill_get hnodup h, harg]
  rfl

lemma covered_of_fill (hnodup : (inputs.map Prod.fst).Nodup)
    (h : fill strict typeName inputs args = .ok given) : ∀ input ∈ inputs,
      input.1 ∈ given ∨ (input.2.default = none ∧ (input.2.required && strict) = false) := by
  induction inputs generalizing args with
  | nil => simp
  | cons input inputs ih =>
    obtain ⟨n, spec⟩ := input
    have hrest := (List.nodup_cons.1 hnodup).2
    rw [List.forall_mem_cons]
    unfold fill at h
    by_cases hc : args.contains n
    · rw [if_pos hc] at h
      exact ⟨.inl (mem_of_fill hrest h (by simpa using hc)), ih hrest h⟩
    · rw [if_neg hc] at h
      cases hd : spec.default with
      | some value =>
        simp only [hd] at h
        exact ⟨.inl (mem_of_fill hrest h (by simp)), ih hrest h⟩
      | none =>
        simp only [hd] at h
        split at h
        · cases h
        · rename_i hrequired
          exact ⟨.inr ⟨rfl, Bool.eq_false_iff.2 hrequired⟩, ih hrest h⟩

/-- Resolution leaves complete arguments. -/
lemma complete_of_resolve (hnodup : (inputs.map Prod.fst).Nodup)
    (h : resolve strict typeName inputs args = .ok given) : Complete strict inputs given := by
  constructor
  · intro name hname
    rw [Std.ExtTreeMap.mem_iff_isSome_getElem?, resolve_get hnodup h] at hname
    rw [isDeclared_eq_isSome_lookup]
    cases hl : inputs.lookup name with
    | none => simp [hl] at hname
    | some spec => rfl
  · unfold resolve at h
    split at h
    · cases h
    · exact covered_of_fill hnodup h

lemma fill_of_covered (h : ∀ input ∈ inputs,
    input.1 ∈ args ∨ (input.2.default = none ∧ (input.2.required && strict) = false)) :
    fill strict typeName inputs args = .ok args := by
  induction inputs with
  | nil => rfl
  | cons input inputs ih =>
    obtain ⟨n, spec⟩ := input
    obtain ⟨hn, hrest⟩ := List.forall_mem_cons.1 h
    unfold fill
    split
    · exact ih hrest
    · rename_i hc
      obtain ⟨hd, hrequired⟩ := hn.resolve_left (by simpa using hc)
      simp only at hd hrequired
      simp only [hd, hrequired, Bool.false_eq_true, ↓reduceIte]
      exact ih hrest

/-- Complete arguments resolve to themselves. -/
lemma Complete.resolve_eq (h : Complete strict inputs args) :
    resolve strict typeName inputs args = .ok args := by
  have hnil := undeclared_eq_nil_iff.2 h.declared
  have hfilter : (args.filter fun name _ => isDeclared inputs name) = args := by
    apply Std.ExtTreeMap.ext_getElem?
    intro name
    rw [Std.ExtTreeMap.getElem?_filter']
    cases harg : args[name]? with
    | none => rfl
    | some arg =>
      have hname : name ∈ args := by simp [Std.ExtTreeMap.mem_iff_isSome_getElem?, harg]
      simp [h.declared name hname]
  unfold resolve
  rw [hnil]
  simp only [hfilter]
  exact fill_of_covered h.covered

/-! ### Arguments that do not resolve -/

lemma fill_error_cases {e : BuildError} (h : fill strict typeName inputs args = .error e) :
    ∃ name, e = .missingRequiredInput typeName name := by
  induction inputs generalizing args with
  | nil => cases h
  | cons input inputs ih =>
    obtain ⟨n, spec⟩ := input
    unfold fill at h
    split at h
    · exact ih h
    · split at h
      · exact ih h
      · split at h
        · cases h
          exact ⟨n, rfl⟩
        · exact ih h

/-- Arguments fail to resolve for one of two reasons. -/
lemma resolve_error_cases {e : BuildError} (h : resolve strict typeName inputs args = .error e) :
    (∃ name, e = .unknownInput typeName name (inputs.map Prod.fst)) ∨
    ∃ name, e = .missingRequiredInput typeName name := by
  unfold resolve at h
  split at h
  · cases h
    exact .inl ⟨_, rfl⟩
  · exact .inr (fill_error_cases h)

lemma fill_lenient (h : fill strict typeName inputs args = .ok given) :
    fill false typeName inputs args = .ok given := by
  induction inputs generalizing args with
  | nil => exact h
  | cons input inputs ih =>
    obtain ⟨n, spec⟩ := input
    unfold fill at h ⊢
    split
    · rename_i hc
      rw [if_pos hc] at h
      exact ih h
    · rename_i hc
      rw [if_neg hc] at h
      cases hd : spec.default with
      | some value =>
        simp only [hd] at h
        exact ih h
      | none =>
        simp only [hd, Bool.and_false, Bool.false_eq_true, ↓reduceIte] at h ⊢
        split at h
        · cases h
        · exact ih h

/-- What resolves, resolves leniently to the same. -/
lemma resolve_lenient (h : resolve strict typeName inputs args = .ok given) :
    resolve false typeName inputs args = .ok given := by
  unfold resolve at h ⊢
  split at h
  · cases h
  · split
    · rename_i hstrict
      cases hstrict
    · exact fill_lenient h

end Args

end PromptGraph
