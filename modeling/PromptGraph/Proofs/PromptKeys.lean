import Mathlib.Data.Nat.Digits.Defs
import PromptGraph.Proofs.Ascending
import PromptGraph.Proofs.Documents
import PromptGraph.Proofs.PromptText

/-!
Which keys a prompt may have, and the order in which its entries come.

A key is a run of digits, maybe behind a plus sign, whose number fits an id. The keys are gone
through in the order of texts, and the first that is no such run is reported. The entries are then
sorted by their numbers, and those of one number stay in the order of their keys.
-/

namespace PromptGraph

open Json

/-! ### Spellings -/

namespace Digits

variable {s : String} {n bound : Nat}

/-- A text is a run of digits, maybe behind a plus sign, and the digits are those of a number, with
zeros in front or not. -/
def Spells (s : String) (n : Nat) : Prop :=
  ∃ ds, (s.toList = ds ∨ s.toList = '+' :: ds) ∧ ds ≠ [] ∧ (∀ c ∈ ds, c.isDigit = true) ∧
    Nat.ofDigits 10 (ds.map weight).reverse = n

lemma value_eq_ofDigits (ds : List Char) :
    value ds = Nat.ofDigits 10 (ds.map weight).reverse := by
  rw [Nat.ofDigits_eq_foldr, List.foldr_reverse, List.foldl_map, value]
  congr 1
  funext m c
  exact Nat.add_comm _ _

/-- A plus sign is no digit, so it is clear which characters are the digits. -/
lemma readUpTo?_eq_some_iff :
    readUpTo? bound s = some n ↔ Spells s n ∧ n ≤ bound := by
  have hplus (ds : List Char) : ¬ ∀ c ∈ '+' :: ds, c.isDigit = true := fun h =>
    absurd (h '+' List.mem_cons_self) (by decide)
  have hread (ds : List Char) : read? ds = some n ↔
      ds ≠ [] ∧ (∀ c ∈ ds, c.isDigit = true) ∧ Nat.ofDigits 10 (ds.map weight).reverse = n := by
    simp [read?, value_eq_ofDigits, and_assoc]
  rw [readUpTo?, Option.filter_eq_some_iff, decide_eq_true_iff, hread]
  refine and_congr_left fun _ => ?_
  unfold Spells
  split
  · rename_i cs hs
    constructor
    · exact fun h => ⟨cs, .inr hs, h⟩
    · rintro ⟨ds, h | h, hds⟩
      · rw [hs] at h
        exact absurd (h ▸ hds.2.1) (hplus cs)
      · obtain rfl : cs = ds := (List.cons.inj (hs.symm.trans h)).2
        exact hds
  · rename_i hs
    constructor
    · exact fun h => ⟨_, .inl rfl, h⟩
    · rintro ⟨ds, h | h, hds⟩
      · exact h ▸ hds
      · exact absurd h (hs ds)

end Digits

namespace NodeId

variable {key : String} {id : NodeId}

lemma ofKey?_eq_some_iff : ofKey? key = some id ↔ Digits.Spells key id.toNat := by
  rw [ofKey?, Option.map_eq_some_iff]
  simp only [Digits.readUpTo?_eq_some_iff]
  constructor
  · rintro ⟨n, ⟨hn, hle⟩, rfl⟩
    have hlt : n < UInt64.size := by simp only [UInt64.size] at hle ⊢; omega
    rwa [UInt64.toNat_ofNat_of_lt' hlt]
  · intro h
    exact ⟨id.toNat, ⟨h, Nat.le_sub_one_of_lt id.toNat_lt⟩, UInt64.ofNat_toNat⟩

/-- A key spells a number that an id can have. -/
def IsKey (key : String) : Prop := ∃ n < UInt64.size, Digits.Spells key n

lemma exists_ofKey?_iff : (∃ id, ofKey? key = some id) ↔ IsKey key := by
  simp only [ofKey?_eq_some_iff]
  constructor
  · rintro ⟨id, hid⟩
    exact ⟨id.toNat, id.toNat_lt, hid⟩
  · rintro ⟨n, hlt, hn⟩
    exact ⟨UInt64.ofNat n, by rwa [UInt64.toNat_ofNat_of_lt' hlt]⟩

lemma ofKey?_eq_none_iff : ofKey? key = none ↔ ¬ IsKey key := by
  rw [← exists_ofKey?_iff, Option.eq_none_iff_forall_ne_some, not_exists]

end NodeId

namespace Prompt

variable {m : NameMap PromptEntry} {p : Prompt}

/-! ### Keys that are ids -/

/-- The entries of a map, each with its key and with the number that the key spells, in the order of
the numbers and then in that of the keys, are those of a prompt. -/
structure ListedBy (p : Prompt) (m : NameMap PromptEntry)
    (rows : List (String × NodeId × PromptEntry)) : Prop where
  entries : p.entries = rows.map (·.2)
  complete : (rows.map fun row => (row.1, row.2.2)).Perm m.toList
  spelled : ∀ row ∈ rows, Digits.Spells row.1 row.2.1.toNat
  ordered : rows.Pairwise fun row next =>
    row.2.1 < next.2.1 ∨ (row.2.1 = next.2.1 ∧ row.1 < next.1)

lemma exists_rows_of_readIds {l : List (String × PromptEntry)} {es : List (NodeId × PromptEntry)}
    (h : readIds l = .ok es) : ∃ rows : List (String × NodeId × PromptEntry),
      rows.map (·.2) = es ∧ rows.map (fun row => (row.1, row.2.2)) = l ∧
      ∀ row ∈ rows, Digits.Spells row.1 row.2.1.toNat := by
  induction l generalizing es with
  | nil =>
    cases h
    exact ⟨[], rfl, rfl, by simp⟩
  | cons q l ih =>
    obtain ⟨key, e⟩ := q
    rw [readIds_cons] at h
    split at h
    · cases h
    · rename_i id hid
      obtain ⟨es, hes, rfl⟩ := map_eq_ok_iff.1 h
      obtain ⟨rows, rfl, rfl, hspelled⟩ := ih hes
      exact ⟨(key, id, e) :: rows, rfl, rfl, List.forall_mem_cons.2
        ⟨NodeId.ofKey?_eq_some_iff.1 hid, hspelled⟩⟩

/-- The sort by numbers keeps the order of the keys. -/
lemma exists_listedBy_of_ofKeyed (h : ofKeyed m = .ok p) : ∃ rows, p.ListedBy m rows := by
  obtain ⟨es, hes, rfl⟩ := map_eq_ok_iff.1 h
  obtain ⟨rows, rfl, hrows, hspelled⟩ := exists_rows_of_readIds hes
  have hkeys : rows.Pairwise fun row next => row.1 < next.1 := by
    have hascending := NameMap.ascending_toList m
    rwa [← hrows, List.pairwise_map] at hascending
  let number := fun row : String × NodeId × PromptEntry => row.2.1.toNat
  have hperm := sortOn_perm number rows
  refine ⟨sortOn number rows, sortOn_map _ _ rows, hrows ▸ hperm.map _,
    fun row hrow => hspelled row (hperm.mem_iff.1 hrow), ?_⟩
  refine (pairwise_inOrder_sortOn number hkeys).imp fun {row next} hlt => ?_
  rcases hlt with hlt | ⟨heq, hlt⟩
  · exact .inl (UInt64.lt_iff_toNat_lt.2 hlt)
  · exact .inr ⟨UInt64.toNat_inj.1 heq, hlt⟩

/-! ### Keys that are none -/

/-- The error that a key which is no id is reported by. -/
def keyFault? (q : String × PromptEntry) : Option ReadError :=
  if (NodeId.ofKey? q.1).isSome then none else some ⟨.badNodeId q.1, none⟩

/-- A key that is no id, and the error that says so. -/
def BadKey (key : String) (e : ReadError) : Prop :=
  ¬ NodeId.IsKey key ∧ e = ⟨.badNodeId key, none⟩

lemma keyFault?_eq_some_iff (q : String × PromptEntry) (e : ReadError) :
    keyFault? q = some e ↔ BadKey q.1 e := by
  rw [BadKey, ← NodeId.ofKey?_eq_none_iff, keyFault?]
  cases NodeId.ofKey? q.1 <;> simp [eq_comm]

lemma fault?_readIds (l : List (String × PromptEntry)) :
    fault? (readIds l) = l.findSome? keyFault? := by
  induction l with
  | nil => rfl
  | cons q l ih =>
    obtain ⟨key, entry⟩ := q
    rw [readIds_cons, List.findSome?_cons, keyFault?]
    cases NodeId.ofKey? key with
    | none => rfl
    | some id =>
      rw [← ih]
      exact fault?_map

lemma exists_ofKeyed_iff : (∃ p, ofKeyed m = .ok p) ↔ ∀ key ∈ m, NodeId.IsKey key := by
  rw [← fault?_eq_none_iff, ofKeyed, fault?_map, fault?_readIds,
    NameMap.findSome?_toList_eq_none_iff (R := fun key _ => BadKey key) keyFault?_eq_some_iff]
  simp only [NameMap.mem_iff_exists]
  constructor
  · rintro h key ⟨entry, hentry⟩
    by_contra hbad
    exact h key entry hentry _ ⟨hbad, rfl⟩
  · rintro h key entry hentry e ⟨hbad, -⟩
    exact hbad (h key ⟨entry, hentry⟩)

/-- The smallest key that is no id is reported. -/
lemma ofKeyed_eq_error_iff {e : ReadError} : ofKeyed m = .error e ↔
    ∃ key, IsLeast {k | k ∈ m ∧ ¬ NodeId.IsKey k} key ∧ e = ⟨.badNodeId key, none⟩ := by
  have hbad : {k | ∃ entry, m[k]? = some entry ∧ ∃ e, BadKey k e} =
      {k | k ∈ m ∧ ¬ NodeId.IsKey k} := by
    ext k
    simp [NameMap.mem_iff_exists, BadKey]
  rw [← fault?_eq_some_iff, ofKeyed, fault?_map, fault?_readIds,
    NameMap.findSome?_toList_eq_some_iff (R := fun key _ => BadKey key) keyFault?_eq_some_iff, hbad]
  constructor
  · rintro ⟨key, entry, -, ⟨-, rfl⟩, hleast⟩
    exact ⟨key, hleast, rfl⟩
  · rintro ⟨key, hleast, rfl⟩
    obtain ⟨entry, hentry⟩ := NameMap.mem_iff_exists.1 hleast.1.1
    exact ⟨key, entry, hentry, ⟨hleast.1.2, rfl⟩, hleast⟩

/-! ### Texts -/

variable {text : String}

/-- A text that reads as a map of entries is read as the prompt of the map. What is wrong with a key
has no place in the text. -/
lemma ofText_eq (h : (Reader.nameMap PromptEntry.read).ofText text = .ok m) :
    ofText text = (ofKeyed m).mapError fun e => .document ⟨e.problem, none⟩ := by
  obtain ⟨hm, hend⟩ := Reader.ofText_eq_ok_iff.1 h
  have hchars : read.ofChars text.toList = ofKeyed m := by
    rw [Reader.ofChars]
    generalize Scan.draft text.toList = scan at hm hend
    simp only [read, hm, hend, bind, Except.bind]
    cases ofKeyed m <;> rfl
  rw [ofText, Reader.ofText, hchars]
  cases hkeyed : ofKeyed m with
  | ok p => rfl
  | error e =>
    obtain ⟨key, -, rfl⟩ := ofKeyed_eq_error_iff.1 hkeyed
    rfl

/-- **Keys of prompts.** Take a text that is a map from keys to entries; of the members with one key
the last counts. It is a prompt exactly if every key is a run of digits, maybe behind a plus sign,
whose number fits an id. The entries are then those of all keys under the numbers of the keys, in
the order of the numbers, and for one number in the order of the keys. Otherwise the smallest key
that is no such run is reported. The order of the members in the text does not matter. -/
theorem read_by_number (h : (Reader.nameMap PromptEntry.read).ofText text = .ok m) :
    (∃ members, (Reader.members PromptEntry.read).ofText text = .ok members ∧
      ∀ key entry, m[key]? = some entry ↔ (key, entry) ∈ lastOfEach members) ∧
    ((∃ p, ofText text = .ok p) ↔ ∀ key ∈ m, NodeId.IsKey key) ∧
    (∀ p, ofText text = .ok p → ∃ rows, p.ListedBy m rows) ∧
    (∀ e, ofText text = .error e ↔ ∃ key, IsLeast {k | k ∈ m ∧ ¬ NodeId.IsKey k} key ∧
      e = .document ⟨.badNodeId key, none⟩) ∧
    (∀ text', Rearranged text text' → ofText text' = ofText text) := by
  refine ⟨Reader.exists_members_of_ofText h, ?_, fun p hp => ?_, fun e => ?_,
    fun text' htext => ?_⟩
  · simp only [ofText_eq h, mapError_eq_ok_iff, exists_ofKeyed_iff]
  · rw [ofText_eq h] at hp
    exact exists_listedBy_of_ofKeyed (mapError_eq_ok_iff.1 hp)
  · rw [ofText_eq h, mapError_eq_error_iff]
    constructor
    · rintro ⟨e, he, rfl⟩
      obtain ⟨key, hleast, rfl⟩ := ofKeyed_eq_error_iff.1 he
      exact ⟨key, hleast, rfl⟩
    · rintro ⟨key, hleast, rfl⟩
      exact ⟨_, ofKeyed_eq_error_iff.2 ⟨key, hleast, rfl⟩, rfl⟩
  · rw [ofText_eq h]
    exact ofText_eq (PromptEntry.steady_read.nameMap.ofText htext h)

/-- A text with three keys, two of which spell one id. -/
def mixed : String :=
  "\x7b\"9\":\x7b\"class_type\":\"A\",\"inputs\":\x7b\x7d\x7d," ++
    "\"10\":\x7b\"class_type\":\"B\",\"inputs\":\x7b\x7d\x7d," ++
    "\"010\":\x7b\"class_type\":\"C\",\"inputs\":\x7b\x7d\x7d\x7d"

/-- The same with the first two keys in the other order, and gaps. -/
def mixedTurned : String :=
  "\x7b \"10\": \x7b\"class_type\":\"B\",\"inputs\":\x7b\x7d\x7d," ++
    "\"9\": \x7b\"class_type\":\"A\",\"inputs\":\x7b\x7d\x7d," ++
    "\"010\": \x7b\"class_type\":\"C\",\"inputs\":\x7b\x7d\x7d \x7d"

lemma mixed_rearranged : Rearranged mixed mixedTurned := by
  refine ⟨?_, by cbv⟩
  cbv
  refine .object (.trans (.swap_of_ne (k := "9") (l := "10") rfl rfl (by decide)) ?_)
  refine .cons ⟨⟨_, rfl⟩, ⟨_, rfl⟩, rfl⟩ ?_ <| .cons ⟨⟨_, rfl⟩, ⟨_, rfl⟩, rfl⟩ ?_ <|
    .cons ⟨⟨_, rfl⟩, ⟨_, rfl⟩, rfl⟩ ?_ .nil
  all_goals
    exact .object (.cons ⟨⟨_, rfl⟩, ⟨_, rfl⟩, rfl⟩ (.text ⟨⟨_, rfl⟩, ⟨_, rfl⟩, rfl⟩)
      (.cons ⟨⟨_, rfl⟩, ⟨_, rfl⟩, rfl⟩ (.object .nil) .nil))

/-- A text with a key whose number no id has, and one with a minus sign. -/
def misspelt : String :=
  "\x7b\"18446744073709551616\":\x7b\"class_type\":\"A\",\"inputs\":\x7b\x7d\x7d," ++
    "\"-1\":\x7b\"class_type\":\"B\",\"inputs\":\x7b\x7d\x7d\x7d"

theorem mixed_read_by_number :
    (∃ m p rows, (Reader.nameMap PromptEntry.read).ofText mixed = .ok m ∧
      ofText mixed = .ok p ∧ p.ListedBy m rows ∧ ofText mixedTurned = .ok p ∧
      p.entries.map (fun e => (e.1, e.2.classType)) = [(9, "A"), (10, "C"), (10, "B")]) ∧
    (∃ m e, (Reader.nameMap PromptEntry.read).ofText misspelt = .ok m ∧
      ofText misspelt = .error e ∧
      (∃ key, IsLeast {k | k ∈ m ∧ ¬ NodeId.IsKey k} key ∧ e = .document ⟨.badNodeId key, none⟩) ∧
      e.message = "Prompt JSON is invalid: '-1' is not a decimal node id") := by
  constructor
  · obtain ⟨m, hm, -⟩ := exists_of_any (x := (Reader.nameMap PromptEntry.read).ofText mixed)
      (P := fun _ => true) (by decide +kernel)
    obtain ⟨p, hp, hcheck⟩ := exists_of_any (x := ofText mixed)
      (P := fun p => p.entries.map (fun e => (e.1, e.2.classType)) =
        [(9, "A"), (10, "C"), (10, "B")]) (by decide +kernel)
    obtain ⟨-, -, hlisted, -, hturned⟩ := read_by_number hm
    obtain ⟨rows, hrows⟩ := hlisted p hp
    exact ⟨m, p, rows, hm, hp, hrows, (hturned _ mixed_rearranged).trans hp,
      of_decide_eq_true hcheck⟩
  · obtain ⟨m, hm, -⟩ := exists_of_any (x := (Reader.nameMap PromptEntry.read).ofText misspelt)
      (P := fun _ => true) (by decide +kernel)
    obtain ⟨e, he, hmessage⟩ := exists_error_of_any (x := ofText misspelt)
      (P := fun e => e.message == "Prompt JSON is invalid: '-1' is not a decimal node id")
      (by decide +kernel)
    obtain ⟨-, -, -, herror, -⟩ := read_by_number hm
    exact ⟨m, e, hm, he, (herror e).1 he, by simpa using hmessage⟩

end Prompt

end PromptGraph
