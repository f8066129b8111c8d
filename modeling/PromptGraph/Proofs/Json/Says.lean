import PromptGraph.Json.Reader
import PromptGraph.Proofs.Json.Numerals
import PromptGraph.Proofs.Json.Quotes
import PromptGraph.Proofs.LastOfEach

/-!
What a draft says, and what readers make of it.

A draft that is whole stands for one document. Where the texts and the brackets stand in the text
does not matter to a reader that finds what it expects, so its result depends on the document only.
-/

namespace PromptGraph.Json

namespace Draft

mutual

/-- The draft is whole and stands for a document. -/
inductive Says : Draft → Json → Prop where
  | null {rest : List Char} : Says (.null rest) .null
  | bool {b : Bool} {rest : List Char} : Says (.bool b rest) (.bool b)
  | number {m : Numeral} {n : Number} {start rest : List Char} (hm : m.number? = some n) :
    Says (.number m start rest) (.number n)
  | text {t : RawText} {s : String} (ht : t.Says s) : Says (.text t) (.string s)
  | array {start rest : List Char} {ds : List Draft} {xs : List Json} (hds : ItemsSay ds xs) :
    Says (.array start ds (.closed rest)) (.array xs)
  | object {start rest : List Char} {ms : List (RawText × Draft)} {ns : List (String × Json)}
      (hms : MembersSay ms ns) :
    Says (.object start ms (.closed rest)) (.object ns)

inductive ItemsSay : List Draft → List Json → Prop where
  | nil : ItemsSay [] []
  | cons {d : Draft} {x : Json} {ds : List Draft} {xs : List Json} (hd : Says d x)
      (hds : ItemsSay ds xs) : ItemsSay (d :: ds) (x :: xs)

inductive MembersSay : List (RawText × Draft) → List (String × Json) → Prop where
  | nil : MembersSay [] []
  | cons {t : RawText} {k : String} {d : Draft} {v : Json} {ms : List (RawText × Draft)}
      {ns : List (String × Json)} (ht : t.Says k) (hd : Says d v) (hms : MembersSay ms ns) :
    MembersSay ((t, d) :: ms) ((k, v) :: ns)

end

mutual

/-- A draft that says a document is read as the document, where its brackets may nest so deep. -/
lemma Says.json_eq {d : Draft} {j : Json} : d.Says j → ∀ {levels : Nat}, j.depth ≤ levels →
    d.json levels = .ok j
  | .null, _, _ => by simp [json]
  | .bool, _, _ => by simp [json]
  | .number hm, _, _ => by simp [json, readNumber, hm, Except.map]
  | .text ht, _, _ => by simp [json, ht.1, Except.map]
  | .array hds, levels, hdepth => by
    cases levels with
    | zero => simp [depth] at hdepth
    | succ levels =>
      have hxs := fun rest => hds.itemsJson_eq rest (Nat.le_of_succ_le_succ hdepth)
      simp [json, hxs, Except.map]
  | .object hms, levels, hdepth => by
    cases levels with
    | zero => simp [depth] at hdepth
    | succ levels =>
      have hns := fun rest => hms.membersJson_eq rest (Nat.le_of_succ_le_succ hdepth)
      simp [json, hns, Except.map]

lemma ItemsSay.itemsJson_eq {ds : List Draft} {xs : List Json} : ItemsSay ds xs →
    ∀ (rest : List Char) {levels : Nat}, itemsDepth xs ≤ levels →
      itemsJson levels (.closed rest) ds = .ok xs
  | .nil, _, _, _ => rfl
  | .cons hd hds, rest, levels, hdepth => by
    rw [itemsDepth, Nat.max_le] at hdepth
    exact bind_eq_ok_iff.2 ⟨_, hd.json_eq hdepth.1,
      bind_eq_ok_iff.2 ⟨_, hds.itemsJson_eq rest hdepth.2, rfl⟩⟩

lemma MembersSay.membersJson_eq {ms : List (RawText × Draft)} {ns : List (String × Json)} :
    MembersSay ms ns → ∀ (rest : List Char) {levels : Nat}, membersDepth ns ≤ levels →
      membersJson levels (.closed rest) ms = .ok ns
  | .nil, _, _, _ => rfl
  | .cons ht hd hms, rest, levels, hdepth => by
    rw [membersDepth, Nat.max_le] at hdepth
    exact bind_eq_ok_iff.2 ⟨_, ht.1, bind_eq_ok_iff.2 ⟨_, hd.json_eq hdepth.1,
      bind_eq_ok_iff.2 ⟨_, hms.membersJson_eq rest hdepth.2, rfl⟩⟩⟩

end

end Draft

namespace Reader

variable {α : Type} {d : Draft} {levels : Nat}

lemma string_of_says {s : String} (h : d.Says (.string s)) : string levels d = .ok s := by
  cases h with
  | text ht => simp [string, ofFault, ht.1, Except.mapError]

lemma bool_of_says {b : Bool} (h : d.Says (.bool b)) : bool levels d = .ok b := by
  cases h with
  | bool => rfl

lemma literal_of_says {v : Literal} (h : d.Says v.json) (hdepth : v.json.depth ≤ levels) :
    literal levels d = .ok v := by
  simp [literal, ofFault, h.json_eq hdepth, Except.mapError, Except.map, v.ofJson_json]

lemma option_of_says {read : Reader α} {a : α} {j : Json} (h : d.Says j) (hj : j ≠ .null)
    (hread : read levels d = .ok a) : option read levels d = .ok (some a) := by
  cases h with
  | null => exact absurd rfl hj
  | _ => simp [option, hread, Except.map]

lemma option_of_says_null {read : Reader α} (h : d.Says .null) :
    option read levels d = .ok none := by
  cases h with
  | null => rfl

/-- The items of a list are read one level below it. -/
lemma list_of_says {read : Reader α} {toJson : α → Json} {l : List α}
    (h : d.Says (.array (l.map toJson)))
    (hread : ∀ a ∈ l, ∀ d : Draft, d.Says (toJson a) → read levels d = .ok a) :
    list read (levels + 1) d = .ok l := by
  cases h with
  | @array _ _ ds _ hds =>
    refine bind_eq_ok_iff.2 ⟨l, mapM_eq_ok_iff.2 ?_, rfl⟩
    induction l generalizing ds with
    | nil =>
      cases hds
      exact .nil
    | cons a l ih =>
      rcases hds with - | ⟨hd, hds⟩
      obtain ⟨ha, hl⟩ := List.forall_mem_cons.1 hread
      exact .cons (ha _ hd) (ih hl hds)

lemma mapM_of_membersSay {read : Draft → Except ReadError α} {toJson : α → Json}
    {l : List (String × α)} {ms : List (RawText × Draft)}
    (h : Draft.MembersSay ms (l.map fun (k, a) => (k, toJson a)))
    (hread : ∀ p ∈ l, ∀ d : Draft, d.Says (toJson p.2) → read d = .ok p.2) :
    ms.mapM (fun (key, d) => do
      let k ← ofFault key.decode
      let v ← read d
      return (k, v)) = .ok l := by
  induction l generalizing ms with
  | nil =>
    cases h
    rfl
  | cons p l ih =>
    obtain ⟨k, a⟩ := p
    cases h with
    | cons ht hd hms =>
      have ha := hread (k, a) List.mem_cons_self _ hd
      have hl := ih hms fun p hp => hread p (List.mem_cons_of_mem _ hp)
      rw [List.mapM_cons, hl]
      simp [ofFault, ht.1, ha, Except.mapError, bind, Except.bind, pure, Except.pure]

lemma members_of_says {read : Reader α} {toJson : α → Json} {l : List (String × α)}
    (h : d.Says (.object (l.map fun (k, a) => (k, toJson a))))
    (hread : ∀ p ∈ l, ∀ d : Draft, d.Says (toJson p.2) → read levels d = .ok p.2) :
    members read (levels + 1) d = .ok l := by
  cases h with
  | object hms => exact bind_eq_ok_iff.2 ⟨l, mapM_of_membersSay hms hread, rfl⟩

/-- A map is read back from a document with its members in order. -/
lemma nameMap_of_says {read : Reader α} {toJson : α → Json} {m : NameMap α}
    (h : d.Says (.object (m.toList.map fun (k, a) => (k, toJson a))))
    (hread : ∀ p ∈ m.toList, ∀ d : Draft, d.Says (toJson p.2) → read levels d = .ok p.2) :
    nameMap read (levels + 1) d = .ok m := by
  rw [nameMap, members_of_says h hread]
  exact congrArg Except.ok m.ofList_toList

end Reader

namespace Record

variable {σ : Type} {r : Record σ} {levels : Nat}

/-- A member is read as the field of its name, and then the others. -/
lemma readMembers_cons {t : RawText} {d : Draft} {ms : List (RawText × Draft)}
    {seen : List String} {x y : σ} {z : List String × σ} {name : String} {field : Field σ}
    (ht : t.Says name) (hfield : r.fields.find? (·.name == name) = some field)
    (hseen : name ∉ seen) (hread : field.read levels d x = .ok y)
    (hms : r.readMembers levels ms (name :: seen) y = .ok z) :
    r.readMembers levels ((t, d) :: ms) seen x = .ok z := by
  rw [readMembers]
  simp [Reader.ofFault, ht.1, hfield, hseen, hread, hms, Except.mapError, bind, Except.bind]

/-- A record is read from an object when all its members are, and no field is missing. -/
lemma read_of_readMembers (seen : List String) {start rest : List Char}
    {ms : List (RawText × Draft)} {x : σ} (hseen : r.missing? seen = none)
    (hms : r.readMembers levels ms [] r.start = .ok (seen, x)) :
    r.read (levels + 1) (.object start ms (.closed rest)) = .ok x := by
  simp [read, Reader.descend, readObject, hms, hseen, Reader.ofFault, Ending.rest,
    Except.mapError, bind, Except.bind]

/-- Reading members one after the other, each as the field of its name, turns a record into
another. -/
inductive Fills (r : Record σ) (levels : Nat) : List (String × Json) → σ → σ → Prop
  | nil (x : σ) : Fills r levels [] x x
  | cons {name : String} {v : Json} {ns : List (String × Json)} {field : Field σ} {x y z : σ}
      (hfield : r.fields.find? (·.name == name) = some field)
      (hread : ∀ d : Draft, d.Says v → field.read levels d x = .ok y)
      (hrest : Fills r levels ns y z) : Fills r levels ((name, v) :: ns) x z

/-- A member that may be absent. -/
lemma Fills.optional {α : Type} {name : String} {o : Option α} {toJson : α → Json}
    {ns : List (String × Json)} {field : Field σ} {z : σ} (f : Option α → σ)
    (hfield : r.fields.find? (·.name == name) = some field)
    (hread : ∀ a ∈ o, ∀ d : Draft, d.Says (toJson a) →
      field.read levels d (f none) = .ok (f (some a)))
    (hrest : r.Fills levels ns (f o) z) :
    r.Fills levels ((o.map fun a => (name, toJson a)).toList ++ ns) (f none) z := by
  cases o with
  | none => exact hrest
  | some a => exact .cons hfield (hread a rfl) hrest

lemma Fills.readMembers {ms : List (RawText × Draft)} {ns : List (String × Json)}
    {seen : List String} {x z : σ} (h : r.Fills levels ns x z) (hms : Draft.MembersSay ms ns)
    (hnodup : (ns.map Prod.fst).Nodup) (hseen : ∀ name ∈ ns.map Prod.fst, name ∉ seen) :
    r.readMembers levels ms seen x = .ok ((ns.map Prod.fst).reverse ++ seen, z) := by
  induction h generalizing ms seen with
  | nil x =>
    cases hms
    rfl
  | @cons name v ns field x y z hfield hread hrest ih =>
    rcases hms with - | ⟨ht, hd, hms⟩
    obtain ⟨hname, hnodup⟩ := List.nodup_cons.1 hnodup
    obtain ⟨hnew, hseen⟩ := List.forall_mem_cons.1 hseen
    have hlater : ∀ n ∈ ns.map Prod.fst, n ∉ name :: seen := fun n hn hmem =>
      (List.mem_cons.1 hmem).elim (fun he => hname (he ▸ hn)) (hseen n hn)
    rw [readMembers_cons ht hfield hnew (hread _ hd) (ih hms hnodup hlater)]
    simp

/-- A record is read from an object whose members fill it and leave no field missing. -/
lemma Fills.read_of_says {ns : List (String × Json)} {x : σ} (h : r.Fills levels ns r.start x)
    (hnodup : (ns.map Prod.fst).Nodup) (hmissing : r.missing? (ns.map Prod.fst).reverse = none)
    {d : Draft} (hd : d.Says (.object ns)) : r.read (levels + 1) d = .ok x := by
  cases hd with
  | object hms =>
    refine read_of_readMembers _ hmissing ?_
    rw [h.readMembers hms hnodup (by simp), List.append_nil]

end Record

end PromptGraph.Json
