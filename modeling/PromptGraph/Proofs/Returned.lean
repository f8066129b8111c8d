import PromptGraph.Graph.Expand
import PromptGraph.Proofs.FirstFault
import PromptGraph.Proofs.ResolveExact

/-!
What a build procedure returns, against what its subgraph declares.

The names have to be the same, and so has the kind under every name. Then the handle shows the
declared names in order, each with the very output that was returned. Otherwise the complaint is
about all names that are not declared, or else about the first declared output that is missing or
of another kind. The order in which the returned outputs are listed does not matter.
-/

namespace PromptGraph

namespace SubgraphOutputs

/-- The declared outputs in order, each taken out of what is left of the returned ones. -/
def takeInOrder (returned : SubgraphOutputs) :
    List (String × SubgraphOutputSpec) → Except OutputMismatch (List (String × Out))
  | [] => .ok []
  | (name, spec) :: declared =>
    match returned[name]? with
    | none => .error (.missing name)
    | some out =>
      if out.kind = spec.kind then
        (takeInOrder (returned.erase name) declared).map ((name, out) :: ·)
      else .error (.wrongKind name spec.kind out.kind)

/-- Verification by way of a list of the names of all returned outputs. Those that are not declared
are sorted and refused; if there are none, the outputs are taken out one by one. -/
def verifyBy (names : List String) (returned : SubgraphOutputs)
    (declared : List (String × SubgraphOutputSpec)) :
    Except OutputMismatch (List (String × Out)) :=
  let undeclared := (names.filter fun name =>
    !declared.any fun output => output.1 == name).mergeSort fun a b => (compare a b).isLE
  match undeclared with
  | [] => returned.takeInOrder declared
  | names => .error (.undeclared names)

/-- The returned outputs are the declared ones, by name and by kind. -/
structure Agrees (returned : SubgraphOutputs) (declared : List (String × SubgraphOutputSpec)) :
    Prop where
  names_iff : ∀ name : String, name ∈ returned ↔ ∃ output ∈ declared, output.1 = name
  kind_eq : ∀ output ∈ declared, ∀ out, returned[output.1]? = some out → out.kind = output.2.kind

/-- What is wrong with a declared output. -/
inductive Flaw (returned : SubgraphOutputs) (output : String × SubgraphOutputSpec) :
    OutputMismatch → Prop
  | missing (h : returned[output.1]? = none) : Flaw returned output (.missing output.1)
  | wrongKind {out : Out} (h : returned[output.1]? = some out) (hne : out.kind ≠ output.2.kind) :
      Flaw returned output (.wrongKind output.1 output.2.kind out.kind)

/-- What is wrong with returned outputs: the names that are not declared, all of them in ascending
order, or else the flaw of the first declared output that has one. -/
inductive Complaint (returned : SubgraphOutputs)
    (declared : List (String × SubgraphOutputSpec)) : OutputMismatch → Prop
  | undeclared {names : List String} (hne : names ≠ [])
      (hsorted : names.Pairwise fun a b => compare a b = .lt)
      (hnames : ∀ name : String, name ∈ names ↔
        name ∈ returned ∧ ∀ output ∈ declared, output.1 ≠ name) :
      Complaint returned declared (.undeclared names)
  | flawed {before after : List (String × SubgraphOutputSpec)}
      {output : String × SubgraphOutputSpec} {flaw : OutputMismatch}
      (hdeclared : ∀ name : String, name ∈ returned → ∃ output ∈ declared, output.1 = name)
      (hsplit : declared = before ++ output :: after)
      (hbefore : ∀ b ∈ before, ∀ flaw, ¬ Flaw returned b flaw)
      (hflaw : Flaw returned output flaw) : Complaint returned declared flaw

def flaw? (returned : SubgraphOutputs) (output : String × SubgraphOutputSpec) :
    Option OutputMismatch :=
  match returned[output.1]? with
  | none => some (.missing output.1)
  | some out =>
    if out.kind = output.2.kind then none
    else some (.wrongKind output.1 output.2.kind out.kind)

/-- The returned outputs under some of the declared names. -/
def listed (returned : SubgraphOutputs) (declared : List (String × SubgraphOutputSpec)) :
    List (String × Out) :=
  declared.filterMap fun output => returned[output.1]?.map (output.1, ·)

variable {returned : SubgraphOutputs} {declared : List (String × SubgraphOutputSpec)}
  {output : String × SubgraphOutputSpec} {flaw : OutputMismatch}

/-! ### Any order of names -/

lemma inOrder_erase {name : String} (hfresh : name ∉ declared.map Prod.fst) :
    inOrder (returned.erase name) declared = returned.inOrder declared := by
  induction declared with
  | nil => rfl
  | cons output declared ih =>
    obtain ⟨n, spec⟩ := output
    simp only [List.map_cons, List.mem_cons, not_or] at hfresh
    have hget : (returned.erase name)[n]? = returned[n]? := by
      simp [Std.ExtTreeMap.getElem?_erase, hfresh.1]
    rw [inOrder, inOrder, hget, ih hfresh.2]

/-- What has been taken out is not asked for again. -/
lemma takeInOrder_eq (hnodup : (declared.map Prod.fst).Nodup) :
    returned.takeInOrder declared = returned.inOrder declared := by
  induction declared generalizing returned with
  | nil => rfl
  | cons output declared ih =>
    obtain ⟨name, spec⟩ := output
    obtain ⟨hfresh, hnodup⟩ := List.nodup_cons.1 hnodup
    rw [takeInOrder, inOrder]
    cases returned[name]? with
    | none => rfl
    | some out => simp only [ih hnodup, inOrder_erase hfresh]

lemma verifyBy_eq (hnodup : (declared.map Prod.fst).Nodup) {names : List String}
    (hnames : names.Perm returned.keys) :
    verifyBy names returned declared = returned.verify declared := by
  have hsorted : _ = returned.undeclared declared :=
    NameMap.mergeSort_filter_keys hnames fun name => !declared.any fun output => output.1 == name
  cases hundeclared : returned.undeclared declared with
  | nil => simp only [verifyBy, verify, hsorted, hundeclared, takeInOrder_eq hnodup]
  | cons name names => simp only [verifyBy, verify, hsorted, hundeclared]

/-! ### Declared outputs -/

lemma flaw?_eq_some_iff : returned.flaw? output = some flaw ↔ Flaw returned output flaw := by
  unfold flaw?
  constructor
  · intro h
    split at h
    · rename_i hnone
      exact Option.some.inj h ▸ .missing hnone
    · rename_i out hout
      split at h
      · cases h
      · rename_i hne
        exact Option.some.inj h ▸ .wrongKind hout hne
  · intro h
    cases h with
    | missing hnone => simp [hnone]
    | wrongKind hout hne => simp [hout, hne]

lemma flaw?_eq_none_iff :
    returned.flaw? output = none ↔ ∃ out, returned[output.1]? = some out ∧
      out.kind = output.2.kind := by
  unfold flaw?
  cases returned[output.1]? <;> simp

/-- The declared outputs are gone through up to the first flaw. -/
lemma inOrder_eq (returned : SubgraphOutputs) (declared : List (String × SubgraphOutputSpec)) :
    returned.inOrder declared =
      okUnless (declared.findSome? returned.flaw?) (returned.listed declared) := by
  induction declared with
  | nil => rfl
  | cons output declared ih =>
    obtain ⟨name, spec⟩ := output
    rw [inOrder, List.findSome?_cons, listed, List.filterMap_cons, flaw?]
    cases returned[name]? with
    | none => rfl
    | some out =>
      by_cases hk : out.kind = spec.kind
      · simp only [hk, ↓reduceIte, ih, Option.map_some]
        exact okUnless_map fun rest => (name, out) :: rest
      · simp [hk]

lemma map_fst_listed (h : ∀ output ∈ declared, returned.flaw? output = none) :
    (returned.listed declared).map Prod.fst = declared.map Prod.fst := by
  induction declared with
  | nil => rfl
  | cons output declared ih =>
    obtain ⟨hfirst, hrest⟩ := List.forall_mem_cons.1 h
    obtain ⟨out, hout, -⟩ := flaw?_eq_none_iff.1 hfirst
    rw [listed, List.filterMap_cons, ← listed]
    simp only [hout, Option.map_some, List.map_cons, ih hrest]

/-- What is listed has been returned. -/
lemma mem_of_mem_listed {o : String × Out} (ho : o ∈ returned.listed declared) :
    o ∈ returned.toList := by
  obtain ⟨output, -, hout⟩ := List.mem_filterMap.1 ho
  obtain ⟨out, hget, rfl⟩ := Option.map_eq_some_iff.1 hout
  exact Std.ExtTreeMap.mem_toList_iff_getElem?_eq_some.2 hget

/-! ### The outcome -/

lemma mem_undeclared {name : String} :
    name ∈ returned.undeclared declared ↔
      name ∈ returned ∧ ∀ output ∈ declared, output.1 ≠ name := by
  simp [undeclared]

lemma undeclared_eq_nil_iff :
    returned.undeclared declared = [] ↔
      ∀ name : String, name ∈ returned → ∃ output ∈ declared, output.1 = name := by
  simp [undeclared, List.filter_eq_nil_iff]

lemma pairwise_undeclared :
    (returned.undeclared declared).Pairwise fun a b => compare a b = .lt :=
  Std.ExtTreeMap.ordered_keys.filter _

/-- An ascending list is determined by its elements. -/
lemma eq_of_ascending {xs ys : List String} (hxs : xs.Pairwise fun a b => compare a b = .lt)
    (hys : ys.Pairwise fun a b => compare a b = .lt) (h : ∀ name, name ∈ xs ↔ name ∈ ys) :
    xs = ys := by
  have hnodup {xs : List String} (hxs : xs.Pairwise fun a b => compare a b = .lt) : xs.Nodup :=
    hxs.imp fun hlt he => by simp [he] at hlt
  have hperm := (List.perm_ext_iff_of_nodup (hnodup hxs) (hnodup hys)).2 h
  refine hperm.eq_of_pairwise (fun a b _ _ hab hba => ?_) hxs hys
  exact absurd hba (Std.OrientedCmp.not_lt_of_lt hab)

lemma inOrder_eq_error_iff : returned.inOrder declared = .error flaw ↔
    ∃ before output after, declared = before ++ output :: after ∧
      (∀ b ∈ before, ∀ flaw, ¬ Flaw returned b flaw) ∧ Flaw returned output flaw := by
  rw [inOrder_eq, okUnless_eq_error_iff, findSome?_eq_some_iff_first fun _ _ => flaw?_eq_some_iff]

lemma verify_eq_error_iff : returned.verify declared = .error flaw ↔
    Complaint returned declared flaw := by
  unfold verify
  constructor
  · intro h
    split at h
    · rename_i hnil
      obtain ⟨before, output, after, hsplit, hbefore, hflaw⟩ := inOrder_eq_error_iff.1 h
      exact .flawed (undeclared_eq_nil_iff.1 hnil) hsplit hbefore hflaw
    · rename_i hne
      cases h
      exact .undeclared hne pairwise_undeclared fun name => mem_undeclared
  · intro h
    cases h with
    | undeclared hne hsorted hnames =>
      have hall := eq_of_ascending hsorted pairwise_undeclared fun name =>
        (hnames name).trans mem_undeclared.symm
      rw [← hall]
      split
      · exact absurd rfl hne
      · rfl
    | flawed hdeclared hsplit hbefore hflaw =>
      rw [undeclared_eq_nil_iff.2 hdeclared]
      exact inOrder_eq_error_iff.2 ⟨_, _, _, hsplit, hbefore, hflaw⟩

lemma agrees_iff : returned.Agrees declared ↔
    returned.undeclared declared = [] ∧ ∀ output ∈ declared, returned.flaw? output = none := by
  simp only [undeclared_eq_nil_iff, flaw?_eq_none_iff]
  constructor
  · intro h
    refine ⟨fun name => (h.names_iff name).1, fun output houtput => ?_⟩
    have hname : output.1 ∈ returned := (h.names_iff _).2 ⟨output, houtput, rfl⟩
    rw [Std.ExtTreeMap.mem_iff_isSome_getElem?] at hname
    obtain ⟨out, hout⟩ := Option.isSome_iff_exists.1 hname
    exact ⟨out, hout, h.kind_eq output houtput out hout⟩
  · rintro ⟨hdeclared, hsupplied⟩
    refine ⟨fun name => ⟨hdeclared name, ?_⟩, fun output houtput out hout => ?_⟩
    · rintro ⟨output, houtput, rfl⟩
      obtain ⟨out, hout, -⟩ := hsupplied output houtput
      simp [Std.ExtTreeMap.mem_iff_isSome_getElem?, hout]
    · obtain ⟨out', hout', hkind⟩ := hsupplied output houtput
      rw [hout] at hout'
      rwa [Option.some.inj hout']

lemma verify_eq_ok_iff {outputs : List (String × Out)} :
    returned.verify declared = .ok outputs ↔
      returned.Agrees declared ∧ returned.listed declared = outputs := by
  rw [agrees_iff, and_assoc]
  unfold verify
  split
  · rename_i hnil
    simp only [inOrder_eq, okUnless_eq_ok_iff, List.findSome?_eq_none_iff, hnil, true_and]
  · rename_i hne
    have hne : returned.undeclared declared ≠ [] := hne
    simp [hne]

end SubgraphOutputs

namespace Signature

variable {s : Signature SubgraphOutputSpec} {label : Option String} {returned : SubgraphOutputs}

lemma handle_eq_ok_iff {handle : SubgraphHandle} :
    s.handle label (.ok returned) = .ok handle ↔
      returned.Agrees s.outputs ∧ handle = ⟨s.typeName, label, returned.listed s.outputs⟩ := by
  cases hv : returned.verify s.outputs with
  | error mismatch =>
    have hnot : ¬ returned.Agrees s.outputs := fun h => by
      simp [SubgraphOutputs.verify_eq_ok_iff.2 ⟨h, rfl⟩] at hv
    simp [Signature.handle, hv, hnot]
  | ok outputs =>
    obtain ⟨hagrees, rfl⟩ := SubgraphOutputs.verify_eq_ok_iff.1 hv
    simp [Signature.handle, hv, hagrees, eq_comm]

lemma handle_eq_error_iff {e : BuildError} :
    s.handle label (.ok returned) = .error e ↔
      ∃ complaint, e = .outputMismatch s.typeName complaint ∧
        returned.Complaint s.outputs complaint := by
  simp only [← SubgraphOutputs.verify_eq_error_iff]
  cases hv : returned.verify s.outputs <;> simp [Signature.handle, hv, eq_comm]

end Signature

end PromptGraph
