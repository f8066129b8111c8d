import Mathlib.Tactic.Lemma
import PromptGraph.Json.Scan

/-!
Quoted texts are read back: what the escapes of a character stand for is the character.
-/

namespace PromptGraph.Json

open RawText

/-- The piece of a quoted text that stands for a character. -/
def Piece.Says (p : Piece) (c : Char) : Prop :=
  ∀ ending ps, decodePieces ending (p :: ps) = (decodePieces ending ps).map (c :: ·)

namespace Scan

lemma hexDigit?_digitChar {n : Nat} (hn : n < 16) : hexDigit? (Nat.digitChar n) = some n := by
  decide +revert

lemma quoted_escape (c : Char) (tail : List Char) :
    ∃ p : Piece, p.Says c ∧ quoted (escape c ++ tail) = prepend p (quoted tail) := by
  unfold escape
  split
  · exact ⟨.char '"', fun _ _ => rfl, rfl⟩
  · exact ⟨.char '\\', fun _ _ => rfl, rfl⟩
  · exact ⟨.char '\x08', fun _ _ => rfl, rfl⟩
  · exact ⟨.char '\t', fun _ _ => rfl, rfl⟩
  · exact ⟨.char '\n', fun _ _ => rfl, rfl⟩
  · exact ⟨.char '\x0c', fun _ _ => rfl, rfl⟩
  · exact ⟨.char '\r', fun _ _ => rfl, rfl⟩
  · rename_i hquote hslash _ _ _ _ _
    split
    · rename_i hcontrol
      have hunit : hexUnit? '0' '0' (Nat.digitChar (c.toNat / 16)) (Nat.digitChar (c.toNat % 16)) =
          some c.toNat := by
        have hzero : hexDigit? '0' = some 0 := rfl
        simp only [hexUnit?, hzero, hexDigit?_digitChar (show c.toNat / 16 < 16 by omega),
          hexDigit?_digitChar (show c.toNat % 16 < 16 by omega), Option.bind_eq_bind,
          Option.bind_some, Option.pure_def, Option.some.injEq]
        omega
      refine ⟨.unit c.toNat tail, fun ending ps => ?_, by simp [hexPair, quoted, hunit]⟩
      -- a control character is no surrogate
      have htrail : isTrail c.toNat = false := by simp [isTrail]; omega
      have hlead : isLead c.toNat = false := by simp [isLead]; omega
      rw [decodePieces.eq_def]
      simp [htrail, hlead]
    · rename_i hprintable
      refine ⟨.char c, fun _ _ => rfl, ?_⟩
      have hquoted : quoted (c :: tail) = if c.toNat < 0x20 then
          breakOff (controlBreak (c :: tail)) else prepend (.char c) (quoted tail) := by
        rw [quoted.eq_def]
        split <;> simp_all
      rw [List.singleton_append, hquoted, if_neg hprintable]

/-- The text between the quotes, up to the closing one. -/
lemma quoted_flatMap_escape (cs rest : List Char) :
    ∃ ps, quoted (cs.flatMap escape ++ '"' :: rest) = (⟨ps, .closed rest⟩, rest) ∧
      decodePieces (.closed rest) ps = .ok cs := by
  induction cs with
  | nil => exact ⟨[], rfl, rfl⟩
  | cons c cs ih =>
    obtain ⟨ps, hquoted, hps⟩ := ih
    obtain ⟨p, hp, hescape⟩ := quoted_escape c (cs.flatMap escape ++ '"' :: rest)
    refine ⟨p :: ps, ?_, ?_⟩
    · rw [List.flatMap_cons, List.append_assoc, hescape, hquoted]
      rfl
    · rw [hp, hps]
      rfl

end Scan

/-- A quoted text that is whole and stands for a text. -/
def RawText.Says (t : RawText) (s : String) : Prop :=
  t.decode = .ok s ∧ ∃ rest, t.ending = .closed rest

/-- What a text is quoted as is read as the text, up to the closing quote. -/
lemma Scan.quoted_says (s : String) (rest : List Char) :
    ∃ t : RawText, quoted (s.toList.flatMap escape ++ '"' :: rest) = (t, rest) ∧ t.Says s := by
  obtain ⟨ps, hquoted, hps⟩ := quoted_flatMap_escape s.toList rest
  refine ⟨_, hquoted, ?_, rest, rfl⟩
  simp [decode, hps, Except.map]

end PromptGraph.Json
