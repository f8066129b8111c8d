/-!
Places in a text, and their positions by line and column.

A place is known by what is left of the text there. Lines count from one, and a column is the
number of bytes of the line that lie before the place; it may fall within a character.
-/

namespace PromptGraph

/-- The place so many bytes after the point where `rest` is left of a text. -/
structure Place where
  rest : List Char
  past : Nat
deriving DecidableEq

/-- The number of bytes of characters. -/
def byteLength (cs : List Char) : Nat := cs.foldl (fun n c => n + c.utf8Size) 0

structure Position where
  line : Nat
  column : Nat
deriving DecidableEq, Repr

namespace Position

def start : Position := ⟨1, 0⟩

/-- The position after a character. -/
def next (p : Position) (c : Char) : Position :=
  if c = '\n' then ⟨p.line + 1, 0⟩ else ⟨p.line, p.column + c.utf8Size⟩

/-- The position that many bytes on in a text, and at its end if it is shorter. -/
def advance (p : Position) (bytes : Nat) : List Char → Position
  | [] => p
  | c :: cs =>
    if bytes < c.utf8Size then ⟨p.line, p.column + bytes⟩
    else (p.next c).advance (bytes - c.utf8Size) cs

def text (p : Position) : String := s!"line {p.line} column {p.column}"

end Position

namespace Place

/-- Where `rest` is left. -/
def before (rest : List Char) : Place := ⟨rest, 0⟩

/-- One byte into what is left. -/
def within (rest : List Char) : Place := ⟨rest, 1⟩

/-- The position of a place in the whole text. -/
def position (p : Place) (whole : List Char) : Position :=
  Position.start.advance (byteLength whole - byteLength p.rest + p.past) whole

example : (before ['b']).position ['a', '\n', 'é', 'b'] = ⟨2, 2⟩ := by decide

example : (within ['é', 'b']).position ['a', '\n', 'é', 'b'] = ⟨2, 1⟩ := by decide

end Place

end PromptGraph
