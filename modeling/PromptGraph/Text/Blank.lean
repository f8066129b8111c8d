/-!
The characters that count as white space, and the texts that hold nothing else.
-/

namespace PromptGraph.Blank

/-- The ranges of code points with the property White_Space, first and last included. -/
def ranges : List (Nat × Nat) :=
  [(0x9, 0xD), (0x20, 0x20), (0x85, 0x85), (0xA0, 0xA0), (0x1680, 0x1680), (0x2000, 0x200A),
    (0x2028, 0x2029), (0x202F, 0x202F), (0x205F, 0x205F), (0x3000, 0x3000)]

def isSpace (c : Char) : Bool :=
  ranges.any fun (first, last) => first ≤ c.toNat && c.toNat ≤ last

/-- The text is empty or white space throughout. -/
def isBlank (s : String) : Bool := s.toList.all isSpace

example : (ranges.map fun r => r.2 + 1 - r.1).sum = 25 := by decide

end PromptGraph.Blank
