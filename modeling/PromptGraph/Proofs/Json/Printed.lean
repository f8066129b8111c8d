import PromptGraph.Proofs.Json.Says

/-!
Printed documents are scanned into drafts that say them.

Both texts of a document differ only in what fills their gaps, which scanners skip. The only
condition is on the floats in the document: each must be read back from its own text.
-/

namespace PromptGraph.Json

/-- Only characters that scanners skip stand in the gaps. -/
structure Gaps.Blank (gaps : Gaps) : Prop where
  lineBreak : ∀ level, ∀ c ∈ gaps.lineBreak level, Scan.isGap c
  afterColon : ∀ c ∈ gaps.afterColon, Scan.isGap c

lemma Gaps.none_blank : Gaps.none.Blank := ⟨by simp [none], by simp [none]⟩

lemma Gaps.indented_blank : Gaps.indented.Blank where
  lineBreak level c hc := by
    rcases List.mem_cons.1 hc with rfl | hc
    · rfl
    · rw [List.eq_of_mem_replicate hc]
      rfl
  afterColon c hc := by
    rw [List.mem_singleton.1 hc]
    rfl

mutual

/-- The numbers in a document. -/
def numbers : Json → List Number
  | .number n => [n]
  | .array xs => itemsNumbers xs
  | .object ms => membersNumbers ms
  | _ => []

def itemsNumbers : List Json → List Number
  | [] => []
  | x :: xs => x.numbers ++ itemsNumbers xs

def membersNumbers : List (String × Json) → List Number
  | [] => []
  | (_, v) :: ms => v.numbers ++ membersNumbers ms

end

/-- Of the numbers only the floats may fail to be read back. -/
lemma rereads_of_floats {j : Json}
    (hfloats : ∀ x, Number.float x ∈ j.numbers → (Number.float x).Rereads) :
    ∀ n ∈ j.numbers, n.Rereads := by
  intro n hn
  cases n with
  | integer n h => exact Number.rereads_integer n h
  | float x => exact hfloats x hn

namespace Scan

variable {gaps : Gaps} {rest : List Char}

lemma skipGap_append {gap : List Char} (hgap : ∀ c ∈ gap, isGap c) (cs : List Char) :
    skipGap (gap ++ cs) = skipGap cs :=
  List.dropWhile_append_of_pos hgap

lemma skipGap_cons {c : Char} (hc : isGap c = false) (cs : List Char) :
    skipGap (c :: cs) = c :: cs := by
  simp [skipGap, hc]

lemma ends_cons {c : Char} : Ends (c :: rest) ↔
    c.isDigit = false ∧ c ≠ '.' ∧ c ≠ 'e' ∧ c ≠ 'E' := by
  simp [Ends]

lemma ends_gap_append {gap : List Char} (hgap : ∀ c ∈ gap, isGap c) (hrest : Ends rest) :
    Ends (gap ++ rest) := by
  cases gap with
  | nil => exact hrest
  | cons c gap =>
    have hc := hgap c List.mem_cons_self
    simp only [isGap, Bool.or_eq_true, beq_iff_eq] at hc
    rw [List.cons_append, ends_cons]
    rcases hc with ((rfl | rfl) | rfl) | rfl <;> decide

/-! ### The beginnings and the ends of printed values -/

lemma ends_itemsChars (hgaps : gaps.Blank) (level : Nat) (xs : List Json) :
    Ends (itemsChars gaps level xs ++ rest) := by
  cases xs with
  | nil =>
    rw [itemsChars, List.append_assoc]
    exact ends_gap_append (hgaps.lineBreak level) (ends_cons.2 (by decide))
  | cons x xs => exact ends_cons.2 (by decide)

lemma ends_membersChars (hgaps : gaps.Blank) (level : Nat) (ms : List (String × Json)) :
    Ends (membersChars gaps level ms ++ rest) := by
  cases ms with
  | nil =>
    rw [membersChars, List.append_assoc]
    exact ends_gap_append (hgaps.lineBreak level) (ends_cons.2 (by decide))
  | cons m ms => exact ends_cons.2 (by decide)

/-- A value can begin where `cs` is left: with no gap, and with no bracket that closes an array. -/
def Begins (cs : List Char) : Prop :=
  ∃ c cs', cs = c :: cs' ∧ isGap c = false ∧ c ≠ ']'

lemma Begins.append {cs : List Char} (hcs : Begins cs) (tail : List Char) :
    Begins (cs ++ tail) := by
  obtain ⟨c, cs, rfl, hc⟩ := hcs
  exact ⟨c, cs ++ tail, rfl, hc⟩

lemma Begins.length_pos {cs : List Char} (hcs : Begins cs) : 0 < cs.length := by
  obtain ⟨c, cs, rfl, -⟩ := hcs
  exact Nat.succ_pos _

lemma Begins.skipGap_eq {cs : List Char} (hcs : Begins cs) : skipGap cs = cs := by
  obtain ⟨c, cs, rfl, hc, -⟩ := hcs
  exact skipGap_cons hc cs

lemma begins_of_isDigit {c : Char} (hc : c.isDigit) (cs : List Char) : Begins (c :: cs) := by
  refine ⟨c, cs, rfl, ?_, ?_⟩
  · by_contra hgap
    simp only [isGap, Bool.not_eq_false, Bool.or_eq_true, beq_iff_eq] at hgap
    rcases hgap with ((rfl | rfl) | rfl) | rfl <;> exact absurd hc (by decide)
  · rintro rfl
    exact absurd hc (by decide)

lemma text_of_rereads {n : Number} (hn : n.Rereads) :
    (∃ cs, n.text = '-' :: cs ∧ Number.ofDigits? true cs = some n) ∨
    ∃ c cs, n.text = c :: cs ∧ c.isDigit ∧ Number.ofDigits? false (c :: cs) = some n := by
  unfold Number.Rereads Number.ofChars? at hn
  split at hn
  · rename_i cs htext
    exact .inl ⟨cs, htext, hn⟩
  · obtain ⟨m, hm, -⟩ := Number.ofDigits?_eq_some_iff.1 hn
    obtain ⟨c, cs, htext, hc⟩ := exists_digit_of_numeral hm
    exact .inr ⟨c, cs, htext, hc, htext ▸ hn⟩

lemma begins_chars (gaps : Gaps) {j : Json} (hj : ∀ n ∈ j.numbers, n.Rereads) (level : Nat) :
    Begins (j.chars gaps level) := by
  cases j with
  | null => exact ⟨_, _, rfl, rfl, by decide⟩
  | bool b => cases b <;> exact ⟨_, _, rfl, rfl, by decide⟩
  | number n =>
    obtain ⟨cs, htext, -⟩ | ⟨c, cs, htext, hc, -⟩ :=
      text_of_rereads (hj n (List.mem_singleton_self n))
    · exact ⟨'-', cs, htext, rfl, by decide⟩
    · rw [chars, htext]
      exact begins_of_isDigit hc cs
  | string s => exact ⟨_, _, rfl, rfl, by decide⟩
  | array xs => cases xs <;> exact ⟨_, _, rfl, rfl, by decide⟩
  | object ms => cases ms <;> exact ⟨_, _, rfl, rfl, by decide⟩

/-! ### Numbers and texts -/

lemma number_of_ofDigits? {negative : Bool} {cs : List Char} {n : Number}
    (h : Number.ofDigits? negative cs = some n) (hrest : Ends rest) :
    ∃ d : Draft, number negative (cs ++ rest) = (d, rest) ∧ d.Says (.number n) := by
  obtain ⟨m, hm, hn⟩ := Number.ofDigits?_eq_some_iff.1 h
  refine ⟨.number m (cs ++ rest) rest, ?_, .number hn⟩
  rw [number, numeral_append hm hrest]
  rfl

lemma value_digit {c : Char} (hc : c.isDigit) (bound : Nat) (cs : List Char) :
    value (bound + 1) (c :: cs) = number false (c :: cs) := by
  have hne {k : Char} (hk : k.isDigit = false) : c ≠ k := by
    rintro rfl
    exact absurd hc (by simp [hk])
  rw [value, (begins_of_isDigit hc cs).skipGap_eq]
  split
  iterate 7
    · rename_i heq
      exact absurd (List.cons.inj heq).1 (hne rfl)
  · rename_i heq
    obtain ⟨rfl, rfl⟩ := List.cons.inj heq
    rw [if_pos hc]
  · rename_i heq
    cases heq

lemma value_number {n : Number} (hn : n.Rereads) (hrest : Ends rest) (bound : Nat) :
    ∃ d : Draft, value (bound + 1) (n.text ++ rest) = (d, rest) ∧ d.Says (.number n) := by
  obtain ⟨cs, htext, hcs⟩ | ⟨c, cs, htext, hc, hcs⟩ := text_of_rereads hn
  · obtain ⟨d, hd, hsays⟩ := number_of_ofDigits? hcs hrest
    exact ⟨d, htext ▸ hd, hsays⟩
  · obtain ⟨d, hd, hsays⟩ := number_of_ofDigits? hcs hrest
    refine ⟨d, ?_, hsays⟩
    rw [htext, ← hd]
    exact value_digit hc bound _

lemma quote_append (s : String) (rest : List Char) :
    quote s ++ rest = '"' :: (s.toList.flatMap escape ++ '"' :: rest) := by
  simp [quote]

lemma value_quote (s : String) (rest : List Char) (bound : Nat) :
    ∃ d : Draft, value (bound + 1) (quote s ++ rest) = (d, rest) ∧ d.Says (.string s) := by
  obtain ⟨t, ht, hsays⟩ := quoted_says s rest
  refine ⟨.text t, ?_, .text hsays⟩
  rw [quote_append, value, skipGap_cons rfl]
  simp only [ht]

/-! ### Arrays and objects -/

section

variable {gap cs tail : List Char} {bound : Nat} {d : Draft} {x : Json}

lemma value_gap (hgap : ∀ c ∈ gap, isGap c) (hbound : 0 < bound) (cs : List Char) :
    value bound (gap ++ cs) = value bound cs := by
  obtain ⟨b, rfl⟩ : ∃ b, bound = b + 1 := ⟨bound - 1, by omega⟩
  rw [value, skipGap_append hgap, value]

/-- An array whose first item is scanned, and then the others. -/
lemma value_array {ds : List Draft} {xs : List Json} (hgap : ∀ c ∈ gap, isGap c)
    (hcs : Begins cs) (hvalue : value bound cs = (d, tail)) (hd : d.Says x)
    (hitems : items bound tail = (ds, .closed rest, rest)) (hds : Draft.ItemsSay ds xs) :
    ∃ d : Draft, value (bound + 1) ('[' :: gap ++ cs) = (d, rest) ∧ d.Says (.array (x :: xs)) := by
  refine ⟨.array ('[' :: gap ++ cs) (d :: ds) (.closed rest), ?_, .array (.cons hd hds)⟩
  rw [List.cons_append, value, skipGap_cons rfl]
  simp only [skipGap_append hgap, hcs.skipGap_eq]
  obtain ⟨c, cs, rfl, -, hc⟩ := hcs
  simp [hc, hvalue, hitems]

/-- An item after a comma, and then the others. -/
lemma items_cons {ds : List Draft} {xs : List Json} (hgap : ∀ c ∈ gap, isGap c)
    (hcs : Begins cs) (hvalue : value bound cs = (d, tail)) (hd : d.Says x)
    (hitems : items bound tail = (ds, .closed rest, rest)) (hds : Draft.ItemsSay ds xs) :
    ∃ ds, items (bound + 1) (',' :: gap ++ cs) = (ds, .closed rest, rest) ∧
      Draft.ItemsSay ds (x :: xs) := by
  refine ⟨d :: ds, ?_, .cons hd hds⟩
  rw [List.cons_append, items, skipGap_cons rfl]
  simp only [skipGap_append hgap, hcs.skipGap_eq]
  obtain ⟨c, cs, rfl, -, hc⟩ := hcs
  simp [hc, hvalue, hitems]

/-- A member after a gap, and then the others. -/
lemma member_cons {ms : List (RawText × Draft)} {ns : List (String × Json)}
    (hgap : ∀ c ∈ gap, isGap c) (hvalue : value bound cs = (d, tail)) (hd : d.Says x)
    (hmembers : members bound tail = (ms, .closed rest, rest)) (hms : Draft.MembersSay ms ns)
    (k : String) (first : Bool) :
    ∃ ms, member (bound + 1) first (gap ++ (quote k ++ ':' :: cs)) = (ms, .closed rest, rest) ∧
      Draft.MembersSay ms ((k, x) :: ns) := by
  obtain ⟨t, ht, hsays⟩ := quoted_says k (':' :: cs)
  refine ⟨(t, d) :: ms, ?_, .cons hsays hd hms⟩
  rw [member, skipGap_append hgap, quote_append, skipGap_cons rfl]
  simp only [ht, skipGap_cons (show isGap ':' = false from rfl), hvalue, hmembers]

lemma members_comma (bound : Nat) (cs : List Char) :
    members (bound + 1) (',' :: cs) = member bound false cs := rfl

/-- An object whose members are scanned from the first on. -/
lemma value_object {k : String} {ms : List (RawText × Draft)} {ns : List (String × Json)}
    (hgap : ∀ c ∈ gap, isGap c)
    (hmember : member bound true (quote k ++ ':' :: cs) = (ms, .closed rest, rest))
    (hms : Draft.MembersSay ms ns) :
    ∃ d : Draft, value (bound + 1) ('\x7b' :: gap ++ (quote k ++ ':' :: cs)) = (d, rest) ∧
      d.Says (.object ns) := by
  refine ⟨.object ('\x7b' :: gap ++ (quote k ++ ':' :: cs)) ms (.closed rest), ?_, .object hms⟩
  rw [List.cons_append, value, skipGap_cons rfl]
  rw [quote_append] at hmember ⊢
  simp only [skipGap_append hgap, skipGap_cons (show isGap '"' = false from rfl)]
  simp [hmember]

end

/-! ### Values -/

mutual

lemma value_chars (hgaps : gaps.Blank) : ∀ (j : Json) (level bound : Nat) (rest : List Char),
    (∀ n ∈ j.numbers, n.Rereads) → (j.chars gaps level).length ≤ bound → Ends rest →
    ∃ d : Draft, value bound (j.chars gaps level ++ rest) = (d, rest) ∧ d.Says j
  | j, level, 0, rest, hj, hbound, _ => by
    obtain ⟨c, cs, hc, -⟩ := begins_chars gaps hj level
    simp [hc] at hbound
  | .null, _, bound + 1, rest, _, _, _ => ⟨.null rest, rfl, .null⟩
  | .bool true, _, bound + 1, rest, _, _, _ => ⟨.bool true rest, rfl, .bool⟩
  | .bool false, _, bound + 1, rest, _, _, _ => ⟨.bool false rest, rfl, .bool⟩
  | .number n, _, bound + 1, rest, hj, _, hrest =>
    value_number (hj n (List.mem_singleton_self n)) hrest bound
  | .string s, _, bound + 1, rest, _, _, _ => value_quote s rest bound
  | .array [], level, bound + 1, rest, _, _, _ => ⟨_, rfl, .array .nil⟩
  | .array (x :: xs), level, bound + 1, rest, hj, hbound, _ => by
    have hx : ∀ n ∈ x.numbers, n.Rereads := fun n hn => hj n (List.mem_append_left _ hn)
    have hxs : ∀ n ∈ itemsNumbers xs, n.Rereads := fun n hn => hj n (List.mem_append_right _ hn)
    simp only [chars, List.length_append, List.length_cons] at hbound
    obtain ⟨d, hd, hsays⟩ := value_chars hgaps x (level + 1) bound
      (itemsChars gaps level xs ++ rest) hx (by omega) (ends_itemsChars hgaps level xs)
    obtain ⟨ds, hds, hsay⟩ := items_chars hgaps xs level bound rest hxs (by omega)
    have hbegins := (begins_chars gaps hx (level + 1)).append (itemsChars gaps level xs ++ rest)
    simpa only [chars, List.append_assoc, List.cons_append] using
      value_array (hgaps.lineBreak (level + 1)) hbegins hd hsays hds hsay
  | .object [], level, bound + 1, rest, _, _, _ => ⟨_, rfl, .object .nil⟩
  | .object ((k, v) :: ms), level, bound + 1, rest, hj, hbound, _ => by
    have hv : ∀ n ∈ v.numbers, n.Rereads := fun n hn => hj n (List.mem_append_left _ hn)
    have hms : ∀ n ∈ membersNumbers ms, n.Rereads := fun n hn => hj n (List.mem_append_right _ hn)
    have hpos := (begins_chars gaps hv (level + 1)).length_pos
    simp only [chars, List.length_append, List.length_cons] at hbound
    obtain ⟨bound, rfl⟩ : ∃ b, bound = b + 1 := ⟨bound - 1, by omega⟩
    obtain ⟨d, hd, hsays⟩ := value_chars hgaps v (level + 1) bound
      (membersChars gaps level ms ++ rest) hv (by omega) (ends_membersChars hgaps level ms)
    obtain ⟨ds, hds, hsay⟩ := members_chars hgaps ms level bound rest hms (by omega)
    rw [← value_gap hgaps.afterColon (by omega)] at hd
    have hgap : ∀ c ∈ ([] : List Char), isGap c := by simp
    obtain ⟨ds', hmember, hsay'⟩ := member_cons hgap hd hsays hds hsay k true
    simpa only [chars, List.append_assoc, List.cons_append] using
      value_object (hgaps.lineBreak (level + 1)) hmember hsay'

lemma items_chars (hgaps : gaps.Blank) : ∀ (xs : List Json) (level bound : Nat)
    (rest : List Char), (∀ n ∈ itemsNumbers xs, n.Rereads) →
    (itemsChars gaps level xs).length ≤ bound →
    ∃ ds, items bound (itemsChars gaps level xs ++ rest) = (ds, .closed rest, rest) ∧
      Draft.ItemsSay ds xs
  | xs, level, 0, rest, _, hbound => by
    cases xs <;> simp [itemsChars] at hbound
  | [], level, bound + 1, rest, _, _ => by
    refine ⟨[], ?_, .nil⟩
    rw [itemsChars, List.append_assoc, items, skipGap_append (hgaps.lineBreak level)]
    rfl
  | x :: xs, level, bound + 1, rest, hj, hbound => by
    have hx : ∀ n ∈ x.numbers, n.Rereads := fun n hn => hj n (List.mem_append_left _ hn)
    have hxs : ∀ n ∈ itemsNumbers xs, n.Rereads := fun n hn => hj n (List.mem_append_right _ hn)
    simp only [itemsChars, List.length_append, List.length_cons] at hbound
    obtain ⟨d, hd, hsays⟩ := value_chars hgaps x (level + 1) bound
      (itemsChars gaps level xs ++ rest) hx (by omega) (ends_itemsChars hgaps level xs)
    obtain ⟨ds, hds, hsay⟩ := items_chars hgaps xs level bound rest hxs (by omega)
    have hbegins := (begins_chars gaps hx (level + 1)).append (itemsChars gaps level xs ++ rest)
    simpa only [itemsChars, List.append_assoc, List.cons_append] using
      items_cons (hgaps.lineBreak (level + 1)) hbegins hd hsays hds hsay

lemma members_chars (hgaps : gaps.Blank) : ∀ (ms : List (String × Json)) (level bound : Nat)
    (rest : List Char), (∀ n ∈ membersNumbers ms, n.Rereads) →
    (membersChars gaps level ms).length ≤ bound →
    ∃ ds, members bound (membersChars gaps level ms ++ rest) = (ds, .closed rest, rest) ∧
      Draft.MembersSay ds ms
  | ms, level, 0, rest, _, hbound => by
    cases ms <;> simp [membersChars] at hbound
  | [], level, bound + 1, rest, _, _ => by
    refine ⟨[], ?_, .nil⟩
    rw [membersChars, List.append_assoc, members, skipGap_append (hgaps.lineBreak level)]
    rfl
  | (k, v) :: ms, level, bound + 1, rest, hj, hbound => by
    have hv : ∀ n ∈ v.numbers, n.Rereads := fun n hn => hj n (List.mem_append_left _ hn)
    have hms : ∀ n ∈ membersNumbers ms, n.Rereads := fun n hn => hj n (List.mem_append_right _ hn)
    have hpos := (begins_chars gaps hv (level + 1)).length_pos
    simp only [membersChars, List.length_append, List.length_cons] at hbound
    obtain ⟨bound, rfl⟩ : ∃ b, bound = b + 1 := ⟨bound - 1, by omega⟩
    obtain ⟨d, hd, hsays⟩ := value_chars hgaps v (level + 1) bound
      (membersChars gaps level ms ++ rest) hv (by omega) (ends_membersChars hgaps level ms)
    obtain ⟨ds, hds, hsay⟩ := members_chars hgaps ms level bound rest hms (by omega)
    rw [← value_gap hgaps.afterColon (by omega)] at hd
    simpa only [membersChars, List.append_assoc, List.cons_append, members_comma] using
      member_cons (hgaps.lineBreak (level + 1)) hd hsays hds hsay k false

end

end Scan

/-- The text of a document is scanned to its end, as a draft that says the document. -/
lemma Scan.draft_chars {gaps : Gaps} (hgaps : gaps.Blank) {j : Json}
    (hj : ∀ n ∈ j.numbers, n.Rereads) :
    ∃ d : Draft, draft (j.chars gaps 0) = (d, []) ∧ d.Says j := by
  have hvalue := value_chars hgaps j 0 ((j.chars gaps 0).length + 1) [] hj (Nat.le_succ _) ends_nil
  rwa [List.append_nil] at hvalue

/-- What a reader makes of a draft that says a document, it makes of the text of the document. -/
lemma Reader.ofText_chars {α : Type} {gaps : Gaps} (hgaps : gaps.Blank) {j : Json}
    (hj : ∀ n ∈ j.numbers, n.Rereads) {read : Reader α} {a : α}
    (hread : ∀ d : Draft, d.Says j → read maxLevels d = .ok a) :
    read.ofText (String.ofList (j.chars gaps 0)) = .ok a := by
  obtain ⟨d, hd, hsays⟩ := Scan.draft_chars hgaps hj
  rw [ofText, String.toList_ofList, ofChars, hd]
  simp only [hread d hsays]
  rfl

/-- **Documents survive their texts.** A literal that nests no deeper than a document may, and whose
floats are read back from their texts, is read back from its text, compact or pretty. -/
theorem literal_ofText_text (v : Literal) (hdepth : v.json.depth ≤ maxLevels)
    (hfloats : ∀ x, Number.float x ∈ v.json.numbers → (Number.float x).Rereads) :
    Reader.literal.ofText v.json.compact = .ok v ∧ Reader.literal.ofText v.json.pretty = .ok v := by
  have hnumbers := rereads_of_floats hfloats
  have hread (d : Draft) (hd : d.Says v.json) : Reader.literal maxLevels d = .ok v :=
    Reader.literal_of_says hd hdepth
  exact ⟨Reader.ofText_chars Gaps.none_blank hnumbers hread,
    Reader.ofText_chars Gaps.indented_blank hnumbers hread⟩

end PromptGraph.Json
