import PromptGraph.Proofs.Resolve

/-!
Resolution, decided input by input.

The names of arguments may be listed in any order. A strict resolution answers with the least name
that is not declared, or else with the first input that lacks a value; whatever is left resolves,
and the outcome is known for every name.
-/

namespace PromptGraph

/-- A map lists its names in ascending order, so sorting some of the names of any listing gives the
same list. -/
lemma NameMap.mergeSort_filter_keys {α : Type} {m : NameMap α} {names : List String}
    (hnames : names.Perm m.keys) (p : String → Bool) :
    (names.filter p).mergeSort (fun a b => (compare a b).isLE) = m.keys.filter p := by
  have hswap (a b : String) : compare b a = (compare a b).swap := Std.OrientedOrd.eq_swap
  have hsorted : ((names.filter p).mergeSort fun a b => (compare a b).isLE).Pairwise
      fun a b => (compare a b).isLE = true :=
    List.pairwise_mergeSort (fun _ _ _ => Std.TransCmp.isLE_trans)
      (fun a b => by rw [hswap a b]; cases compare a b <;> rfl) _
  have hkeys : (m.keys.filter p).Pairwise fun a b => (compare a b).isLE = true :=
    (Std.ExtTreeMap.ordered_keys.filter _).imp fun hlt => by simp [hlt]
  refine List.Perm.eq_of_pairwise (fun a b _ _ hab hba => ?_) hsorted hkeys
    ((List.mergeSort_perm _ _).trans (hnames.filter _))
  exact Std.LawfulEqCmp.compare_eq_iff_eq.1 (Std.OrientedCmp.isLE_antisymm hab hba)

namespace Args

/-- The arguments without those of some names. -/
def eraseAll (args : Args) (names : List String) : Args := names.foldl (·.erase ·) args

/-- Resolution by way of a list of the names of all arguments. Those that are not declared are
sorted; then the first is refused, or they are removed one by one. -/
def resolveBy (names : List String) (strict : Bool) (typeName : String)
    (inputs : List (String × InputSpec)) (args : Args) : Except BuildError Args :=
  let unknown := (names.filter fun name => !isDeclared inputs name).mergeSort
    fun a b => (compare a b).isLE
  match unknown, strict with
  | name :: _, true => .error (.unknownInput typeName name (inputs.map Prod.fst))
  | _, _ => fill strict typeName inputs (args.eraseAll unknown)

variable {strict : Bool} {typeName : String} {inputs : List (String × InputSpec)} {args : Args}

/-! ### Any order of names -/

lemma getElem?_eraseAll (args : Args) (names : List String) (name : String) :
    (args.eraseAll names)[name]? = if name ∈ names then none else args[name]? := by
  induction names generalizing args with
  | nil => simp [eraseAll]
  | cons n names ih =>
    rw [eraseAll, List.foldl_cons, ← eraseAll, ih, Std.ExtTreeMap.getElem?_erase]
    by_cases hname : name ∈ names
    · simp [hname]
    · by_cases hn : n = name
      · simp [hn]
      · simp [hname, hn, Ne.symm hn]

/-- Removing the arguments that are not declared leaves those that are. -/
lemma eraseAll_undeclared (inputs : List (String × InputSpec)) (args : Args) :
    args.eraseAll (args.undeclared inputs) = args.filter fun name _ => isDeclared inputs name := by
  apply Std.ExtTreeMap.ext_getElem?
  intro name
  rw [getElem?_eraseAll, Std.ExtTreeMap.getElem?_filter']
  cases harg : args[name]? with
  | none => simp
  | some arg =>
    have hname : name ∈ args := by simp [Std.ExtTreeMap.mem_iff_isSome_getElem?, harg]
    cases hdecl : isDeclared inputs name <;>
      simp [undeclared, hname, hdecl, Option.filter]

lemma resolveBy_eq {names : List String} (hnames : names.Perm args.keys) :
    resolveBy names strict typeName inputs args = resolve strict typeName inputs args := by
  have hsorted : _ = args.undeclared inputs :=
    NameMap.mergeSort_filter_keys hnames fun name => !isDeclared inputs name
  have hleft := eraseAll_undeclared inputs args
  cases hunknown : args.undeclared inputs <;> rw [hunknown] at hsorted hleft <;> cases strict <;>
    simp only [resolveBy, resolve, hsorted, hunknown, hleft]

/-! ### The first fault -/

/-- The name is the least of the names that are not declared. -/
structure LeastUndeclared (inputs : List (String × InputSpec)) (args : Args) (name : String) :
    Prop where
  mem : name ∈ args
  undeclared : isDeclared inputs name = false
  le : ∀ other : String, other ∈ args → isDeclared inputs other = false →
    (compare name other).isLE

lemma leastUndeclared_of_cons {name : String} {names : List String}
    (h : args.undeclared inputs = name :: names) : LeastUndeclared inputs args name := by
  have hmem {n : String} : n ∈ name :: names ↔ n ∈ args ∧ isDeclared inputs n = false := by
    rw [← h]
    simp [Args.undeclared]
  have hsorted : (name :: names).Pairwise fun a b => compare a b = .lt := by
    rw [← h]
    exact Std.ExtTreeMap.ordered_keys.filter _
  obtain ⟨hname, hdecl⟩ := hmem.1 List.mem_cons_self
  refine ⟨hname, hdecl, fun other hother hdecl => ?_⟩
  rcases List.mem_cons.1 (hmem.2 ⟨hother, hdecl⟩) with rfl | hlater
  · simp
  · simp [List.rel_of_pairwise_cons hsorted hlater]

/-- The input is required, but has neither an argument nor a default. -/
def Lacks (args : Args) (input : String × InputSpec) : Prop :=
  input.2.required = true ∧ input.2.default = none ∧ input.1 ∉ args

instance (args : Args) (input : String × InputSpec) : Decidable (args.Lacks input) :=
  inferInstanceAs (Decidable (_ ∧ _ ∧ _))

/-- Whether a declared input lacks a value does not depend on arguments that are not declared. -/
lemma lacks_filter_iff {input : String × InputSpec} (hinput : input ∈ inputs) :
    Lacks (args.filter fun name _ => isDeclared inputs name) input ↔ args.Lacks input := by
  have hdecl : isDeclared inputs input.1 = true := List.any_eq_true.2 ⟨input, hinput, by simp⟩
  have hget : (args.filter fun name _ => isDeclared inputs name)[input.1]? = args[input.1]? := by
    rw [Std.ExtTreeMap.getElem?_filter']
    cases args[input.1]? <;> simp [hdecl]
  simp only [Lacks, Std.ExtTreeMap.mem_iff_isSome_getElem?, hget]

/-- A default fills no other input. -/
lemma lacks_insert_iff {name : String} {arg : Arg} {input : String × InputSpec}
    (hne : input.1 ≠ name) : Lacks (args.insert name arg) input ↔ args.Lacks input := by
  simp [Lacks, hne.symm]

lemma ne_of_mem_of_fresh {name : String} {input : String × InputSpec}
    (hfresh : name ∉ inputs.map Prod.fst) (hinput : input ∈ inputs) : input.1 ≠ name :=
  fun he => hfresh (List.mem_map.2 ⟨input, hinput, he⟩)

lemma fill_of_lacks {before after : List (String × InputSpec)} {input : String × InputSpec}
    (hnodup : ((before ++ input :: after).map Prod.fst).Nodup) (hlacks : args.Lacks input)
    (hbefore : ∀ b ∈ before, ¬ args.Lacks b) :
    fill true typeName (before ++ input :: after) args =
      .error (.missingRequiredInput typeName input.1) := by
  induction before generalizing args with
  | nil =>
    obtain ⟨hrequired, hdefault, hname⟩ := hlacks
    simp [fill, hrequired, hdefault, hname]
  | cons b before ih =>
    obtain ⟨name, spec⟩ := b
    obtain ⟨hb, hbefore⟩ := List.forall_mem_cons.1 hbefore
    obtain ⟨hfresh, hnodup⟩ := List.nodup_cons.1 hnodup
    have hother {b : String × InputSpec} (hb : b ∈ before ++ input :: after) : b.1 ≠ name :=
      ne_of_mem_of_fresh hfresh hb
    rw [List.cons_append, fill]
    split
    · exact ih hnodup hlacks hbefore
    · rename_i hc
      split
      · refine ih hnodup ((lacks_insert_iff (hother (by simp))).2 hlacks) fun b hb => ?_
        rw [lacks_insert_iff (hother (List.mem_append_left _ hb))]
        exact hbefore b hb
      · rename_i hdefault
        have hoptional : spec.required = false := Bool.eq_false_iff.2 fun hrequired =>
          hb ⟨hrequired, hdefault, by simpa using hc⟩
        simp only [hoptional, Bool.false_and, Bool.false_eq_true, ↓reduceIte]
        exact ih hnodup hlacks hbefore

/-- Nothing else makes filling fail. -/
lemma exists_of_fill (hnodup : (inputs.map Prod.fst).Nodup)
    (h : strict = true → ∀ input ∈ inputs, ¬ args.Lacks input) :
    ∃ given, fill strict typeName inputs args = .ok given := by
  induction inputs generalizing args with
  | nil => exact ⟨args, rfl⟩
  | cons input inputs ih =>
    obtain ⟨name, spec⟩ := input
    obtain ⟨hfresh, hnodup⟩ := List.nodup_cons.1 hnodup
    have hrest (hs : strict = true) := (List.forall_mem_cons.1 (h hs)).2
    rw [fill]
    split
    · exact ih hnodup hrest
    · rename_i hc
      split
      · refine ih hnodup fun hs b hb => ?_
        rw [lacks_insert_iff (ne_of_mem_of_fresh hfresh hb)]
        exact hrest hs b hb
      · rename_i hdefault
        split
        · rename_i hrequired
          obtain ⟨hrequired, hs⟩ := Bool.and_eq_true_iff.1 hrequired
          exact absurd ⟨hrequired, hdefault, by simpa using hc⟩ (h hs _ List.mem_cons_self)
        · exact ih hnodup hrest

lemma resolve_eq_fill (h : strict = true → args.undeclared inputs = []) :
    resolve strict typeName inputs args =
      fill strict typeName inputs (args.filter fun name _ => isDeclared inputs name) := by
  unfold resolve
  split
  · rename_i hcons
    simp [h rfl] at hcons
  · rfl

/-! ### The outcome -/

/-- The outcome of a resolution for every name: an input that is declared has the argument of the
caller or else its default, and no other name has anything. -/
structure Resolved (inputs : List (String × InputSpec)) (args given : Args) : Prop where
  get_eq : ∀ input ∈ inputs,
    given[input.1]? = args[input.1]?.or (input.2.default.map .literal)
  declared : ∀ name : String, name ∈ given → ∃ input ∈ inputs, input.1 = name

lemma resolved_of_resolve (hnodup : (inputs.map Prod.fst).Nodup) {given : Args}
    (h : resolve strict typeName inputs args = .ok given) : Resolved inputs args given where
  get_eq input hinput := by
    rw [resolve_get hnodup h, lookup_of_mem hnodup hinput]
    rfl
  declared name hname := by
    simpa [isDeclared] using (complete_of_resolve hnodup h).declared name hname

/-- **Resolution.** The order in which a map lists its names does not matter. In a strict resolution
the least of the names that are not declared is refused, with the declared names in order; if there
is none, the first input that is required and has neither an argument nor a default. In all other
cases, and always in a lenient resolution, there is an outcome, in which every declared input has
the argument of the caller or else its default, and nothing else has anything. -/
theorem resolve_exact (typeName : String) (inputs : List (String × InputSpec))
    (hnodup : (inputs.map Prod.fst).Nodup) (args : Args) :
    (∀ strict (names : List String), names.Perm args.keys →
      resolveBy names strict typeName inputs args = resolve strict typeName inputs args) ∧
    ((∃ name, name ∈ args ∧ isDeclared inputs name = false) →
      ∃ name, LeastUndeclared inputs args name ∧
        resolve true typeName inputs args =
          .error (.unknownInput typeName name (inputs.map Prod.fst))) ∧
    ((∀ name, name ∈ args → isDeclared inputs name = true) → (∃ input ∈ inputs, args.Lacks input) →
      ∃ before input after, inputs = before ++ input :: after ∧ args.Lacks input ∧
        (∀ b ∈ before, ¬ args.Lacks b) ∧
        resolve true typeName inputs args = .error (.missingRequiredInput typeName input.1)) ∧
    (∀ strict, (strict = true → (∀ name, name ∈ args → isDeclared inputs name = true) ∧
        ∀ input ∈ inputs, ¬ args.Lacks input) →
      ∃ given, resolve strict typeName inputs args = .ok given ∧ Resolved inputs args given) := by
  refine ⟨fun strict names hnames => resolveBy_eq hnames, ?_, fun hdeclared hlacks => ?_,
    fun strict hgood => ?_⟩
  · rintro ⟨name, hname, hdecl⟩
    cases hunknown : args.undeclared inputs with
    | nil => simp [undeclared_eq_nil_iff.1 hunknown name hname] at hdecl
    | cons least names =>
      refine ⟨least, leastUndeclared_of_cons hunknown, ?_⟩
      unfold resolve
      rw [hunknown]
  · have hfind : (inputs.find? fun input => decide (args.Lacks input)).isSome := by
      simpa using hlacks
    obtain ⟨input, hinput⟩ := Option.isSome_iff_exists.1 hfind
    obtain ⟨hfirst, before, after, rfl, hothers⟩ := List.find?_eq_some_iff_append.1 hinput
    have hfirst : args.Lacks input := by simpa using hfirst
    have hbefore : ∀ b ∈ before, ¬ args.Lacks b := by simpa using hothers
    refine ⟨before, input, after, rfl, hfirst, hbefore, ?_⟩
    rw [resolve_eq_fill fun _ => undeclared_eq_nil_iff.2 hdeclared]
    refine fill_of_lacks hnodup ((lacks_filter_iff (by simp)).2 hfirst) fun b hb => ?_
    rw [lacks_filter_iff (List.mem_append_left _ hb)]
    exact hbefore b hb
  · have hfill : ∃ given, resolve strict typeName inputs args = .ok given := by
      rw [resolve_eq_fill fun hs => undeclared_eq_nil_iff.2 (hgood hs).1]
      refine exists_of_fill hnodup fun hs input hinput => ?_
      rw [lacks_filter_iff hinput]
      exact (hgood hs).2 input hinput
    obtain ⟨given, hgiven⟩ := hfill
    exact ⟨given, hgiven, resolved_of_resolve hnodup hgiven⟩

/-- A required connection, a required number with a default and an optional number. -/
def samplerInputs : List (String × InputSpec) :=
  [("model", (InputSpec.connection ⟨"MODEL"⟩).mandatory),
    ("steps", InputSpec.scalar.mandatory.withDefault (.ofUInt32 20)), ("denoise", .scalar)]

/-- Two arguments that `samplerInputs` does not declare, and none for the required connection. -/
def strayArgs : Args :=
  .ofList [("zoom", Arg.literal .null), ("blur", .literal .null), ("denoise", .literal .null)]

theorem strayArgs_resolve :
    (samplerInputs.map Prod.fst).Nodup ∧ ["zoom", "denoise", "blur"].Perm strayArgs.keys ∧
    resolveBy ["zoom", "denoise", "blur"] true "KSampler" samplerInputs strayArgs =
      resolve true "KSampler" samplerInputs strayArgs ∧
    LeastUndeclared samplerInputs strayArgs "blur" ∧
    resolve true "KSampler" samplerInputs strayArgs =
      .error (.unknownInput "KSampler" "blur" ["model", "steps", "denoise"]) ∧
    samplerInputs.any (fun input => strayArgs.Lacks input) = true ∧
    ∃ given, resolve false "KSampler" samplerInputs strayArgs = .ok given ∧
      Resolved samplerInputs strayArgs given := by
  have hnodup : (samplerInputs.map Prod.fst).Nodup := by decide
  have hperm : ["zoom", "denoise", "blur"].Perm strayArgs.keys := by decide +kernel
  obtain ⟨horder, hunknown, -, hresolved⟩ :=
    resolve_exact "KSampler" samplerInputs hnodup strayArgs
  obtain ⟨least, hleast, herror⟩ := hunknown ⟨"zoom", by decide +kernel, by decide⟩
  have hblur : least = "blur" := by
    have hnames : strayArgs.undeclared samplerInputs = ["blur", "zoom"] := by decide +kernel
    have hmem : least ∈ strayArgs.undeclared samplerInputs := by
      simp [Args.undeclared, hleast.mem, hleast.undeclared]
    have hle := hleast.le "blur" (by decide +kernel) (by decide)
    rw [hnames] at hmem
    obtain rfl | rfl : least = "blur" ∨ least = "zoom" := by simpa using hmem
    · rfl
    · exact absurd hle (by decide)
  subst hblur
  exact ⟨hnodup, hperm, horder true _ hperm, hleast, herror, by decide +kernel,
    hresolved false (by simp)⟩

end Args

end PromptGraph
