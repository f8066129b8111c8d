import Mathlib.Data.List.Permutation
import PromptGraph.Json.Reader
import PromptGraph.Proofs.Json.Numerals
import PromptGraph.Proofs.LastOfEach

/-!
Documents whose members are put in another order.

Two members of an object with different keys may change places, and a member may be left out if a
later one has its key. A reader that accepts a document accepts what comes of it in this way and
reads the same: maps do not see the order, and the fields of a record are read into places of their
own.
-/

namespace PromptGraph

namespace Json

/-- Both texts are closed, and they stand for the same characters or for none. -/
structure RawText.Alike (t u : RawText) : Prop where
  left_closed : ∃ rest, t.ending = .closed rest
  right_closed : ∃ rest, u.ending = .closed rest
  decode_eq : t.decode.toOption = u.decode.toOption

/-- An array ends where the text goes on. -/
def EndsArray (rest : List Char) : Prop := Scan.closeArray rest = .ok ()

namespace Draft

mutual

/-- What comes of a draft when members of objects change places or are overridden. The places in the
text do not count, except that arrays have to end after the same items. -/
inductive Rearranged : Draft → Draft → Prop
  | null {rest rest' : List Char} : Rearranged (.null rest) (.null rest')
  | bool {b : Bool} {rest rest' : List Char} : Rearranged (.bool b rest) (.bool b rest')
  | number {n : Numeral} {start start' rest rest' : List Char} :
      Rearranged (.number n start rest) (.number n start' rest')
  | text {t u : RawText} (h : t.Alike u) : Rearranged (.text t) (.text u)
  | array {start start' rest rest' : List Char} {ds es : List Draft}
      (hends : EndsArray (start.drop 1) → EndsArray (start'.drop 1))
      (hds : ItemsRearranged ds es) :
      Rearranged (.array start ds (.closed rest)) (.array start' es (.closed rest'))
  | object {start start' rest rest' : List Char} {ms ns : List (RawText × Draft)}
      (hms : MembersRearranged ms ns) :
      Rearranged (.object start ms (.closed rest)) (.object start' ns (.closed rest'))

inductive ItemsRearranged : List Draft → List Draft → Prop
  | nil : ItemsRearranged [] []
  | cons {d e : Draft} {ds es : List Draft} (hd : Rearranged d e)
      (hends : (∃ rest, d.rest = .ok rest ∧ EndsArray rest) →
        ∃ rest, e.rest = .ok rest ∧ EndsArray rest)
      (hds : ItemsRearranged ds es) : ItemsRearranged (d :: ds) (e :: es)

inductive MembersRearranged : List (RawText × Draft) → List (RawText × Draft) → Prop
  | nil : MembersRearranged [] []
  | cons {t u : RawText} {d e : Draft} {ms ns : List (RawText × Draft)} (ht : t.Alike u)
      (hd : Rearranged d e) (hms : MembersRearranged ms ns) :
      MembersRearranged ((t, d) :: ms) ((u, e) :: ns)
  | swap {m n : RawText × Draft} {ms : List (RawText × Draft)}
      (hne : ∀ k, m.1.decode = .ok k → n.1.decode ≠ .ok k) :
      MembersRearranged (m :: n :: ms) (n :: m :: ms)
  | overridden {m : RawText × Draft} {ms : List (RawText × Draft)} {k : String}
      (hm : m.1.decode = .ok k) (hlater : ∃ n ∈ ms, n.1.decode = .ok k) :
      MembersRearranged (m :: ms) ms
  | trans {ms ns ps : List (RawText × Draft)} (h : MembersRearranged ms ns)
      (h' : MembersRearranged ns ps) : MembersRearranged ms ps

end

end Draft

/-- What comes of a text when members of objects change places or are overridden, and the gaps
between the tokens change. -/
structure Rearranged (text text' : String) : Prop where
  draft : (Scan.draft text.toList).1.Rearranged (Scan.draft text'.toList).1
  ends : Scan.skipGap (Scan.draft text'.toList).2 = []

namespace Draft.MembersRearranged

lemma swap_of_ne {m n : RawText × Draft} {ms : List (RawText × Draft)} {k l : String}
    (hm : m.1.decode = .ok k) (hn : n.1.decode = .ok l) (hne : k ≠ l) :
    MembersRearranged (m :: n :: ms) (n :: m :: ms) :=
  .swap fun _ hk hl => hne ((Except.ok.inj (hm.symm.trans hk)).trans
    (Except.ok.inj (hn.symm.trans hl)).symm)

/-- Members with different keys may be put in any order. -/
lemma of_perm {ms ns : List (RawText × Draft)} (h : ms.Perm ns)
    (hclosed : ∀ m ∈ ms, m.1.Alike m.1 ∧ m.2.Rearranged m.2)
    (hne : ms.Pairwise fun m n => ∀ k, m.1.decode = .ok k → n.1.decode ≠ .ok k) :
    MembersRearranged ms ns := by
  induction h with
  | nil => exact .nil
  | cons m _ ih =>
    obtain ⟨⟨ht, hd⟩, hclosed⟩ := List.forall_mem_cons.1 hclosed
    exact .cons ht hd (ih hclosed (List.pairwise_cons.1 hne).2)
  | swap m n _ => exact .swap ((List.pairwise_cons.1 hne).1 m List.mem_cons_self)
  | trans hms _ ih ih' =>
    refine .trans (ih hclosed hne) (ih' (fun m hm => hclosed m (hms.mem_iff.2 hm)) ?_)
    exact (hms.pairwise_iff fun h k hn hm => h k hm hn).1 hne

end Draft.MembersRearranged

/-! ### Drafts -/

lemma RawText.Alike.decode_eq_ok {t u : RawText} (h : t.Alike u) {s : String}
    (ht : t.decode = .ok s) : u.decode = .ok s := by
  have hu := h.decode_eq
  rw [ht] at hu
  cases hu' : u.decode with
  | error e => simp [hu', Except.toOption] at hu
  | ok s' =>
    simp only [hu', Except.toOption, Option.some.injEq] at hu
    rw [hu]

namespace Draft

lemma skipMembers_eq_none_iff {ending : Ending} {ms : List (RawText × Draft)} :
    skipMembers ending ms = none ↔
      ending.skip = none ∧ ∀ m ∈ ms, m.1.ending.skip = none ∧ m.2.skip = none := by
  induction ms with
  | nil => simp [skipMembers]
  | cons m ms ih =>
    simp only [skipMembers, Option.orElse_eq_orElse, Option.orElse_eq_or, Option.or_eq_none_iff, ih,
      List.forall_mem_cons]
    tauto

mutual

/-- What can be passed over can still be passed over. -/
lemma Rearranged.skip_eq_none : ∀ {d e : Draft}, d.Rearranged e → d.skip = none → e.skip = none
  | _, _, .null, _ | _, _, .bool, _ | _, _, .number, _ => rfl
  | _, _, .text h, _ => by
    obtain ⟨rest, hrest⟩ := h.right_closed
    simp [skip, hrest, Ending.skip]
  | _, _, .array _ hds, h => hds.skipItems_eq_none h
  | _, _, .object hms, h =>
    skipMembers_eq_none_iff.2 ⟨rfl, hms.forall_skip (skipMembers_eq_none_iff.1 h).2⟩

lemma ItemsRearranged.skipItems_eq_none : ∀ {ds es : List Draft}, ItemsRearranged ds es →
    ∀ {rest rest' : List Char}, skipItems (.closed rest) ds = none →
      skipItems (.closed rest') es = none
  | _, _, .nil, _, _, _ => rfl
  | _, _, .cons hd _ hds, rest, rest', h => by
    simp only [skipItems, Option.orElse_eq_orElse, Option.orElse_eq_or, Option.or_eq_none_iff]
      at h ⊢
    exact ⟨hd.skip_eq_none h.1, hds.skipItems_eq_none h.2⟩

lemma MembersRearranged.forall_skip : ∀ {ms ns : List (RawText × Draft)},
    MembersRearranged ms ns → (∀ m ∈ ms, m.1.ending.skip = none ∧ m.2.skip = none) →
      ∀ n ∈ ns, n.1.ending.skip = none ∧ n.2.skip = none
  | _, _, .nil, h => h
  | _, _, .cons ht hd hms, h => by
    rw [List.forall_mem_cons] at h ⊢
    obtain ⟨rest, hrest⟩ := ht.right_closed
    exact ⟨⟨by simp [hrest, Ending.skip], hd.skip_eq_none h.1.2⟩, hms.forall_skip h.2⟩
  | _, _, .swap _, h => by
    simp only [List.forall_mem_cons] at h ⊢
    exact ⟨h.2.1, h.1, h.2.2⟩
  | _, _, .overridden _ _, h => (List.forall_mem_cons.1 h).2
  | _, _, .trans hms hns, h => hns.forall_skip (hms.forall_skip h)

end

lemma Rearranged.exists_rest {d e : Draft} (h : d.Rearranged e) : ∃ rest, e.rest = .ok rest := by
  cases h with
  | null | bool | number | array | object => exact ⟨_, rfl⟩
  | text h =>
    obtain ⟨rest, hrest⟩ := h.right_closed
    exact ⟨rest, by simp [Draft.rest, hrest, Ending.rest]⟩

end Draft

end Json

end PromptGraph
