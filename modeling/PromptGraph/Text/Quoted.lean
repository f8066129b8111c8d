import PromptGraph.Text.Unprintable

/-!
Texts in double quotes, as error messages show them: on one line, with what cannot be seen written
as an escape.
-/

namespace PromptGraph.Quoted

/-- A character's code point in lower-case hexadecimal, in braces. -/
def byNumber (c : Char) : List Char :=
  '\\' :: 'u' :: '\x7b' :: Nat.toDigits 16 c.toNat ++ ['\x7d']

def escape (c : Char) : List Char :=
  match c with
  | '\x00' => ['\\', '0']
  | '\t' => ['\\', 't']
  | '\r' => ['\\', 'r']
  | '\n' => ['\\', 'n']
  | '\\' => ['\\', '\\']
  | '"' => ['\\', '"']
  | c => if Unprintable.isUnprintable c then byNumber c else [c]

def quote (s : String) : String :=
  String.ofList ('"' :: s.toList.flatMap escape ++ ['"'])

end PromptGraph.Quoted
