import PromptGraph.Json.Number

/-!
JSON documents and their two texts, compact and pretty.

A document keeps the members of an object in the order and the number in which they are written.
Both texts come from one printer, which leaves gaps between the tokens: the compact text fills no
gap, the pretty text fills them with line breaks, two spaces per level and a space after a colon.
-/

namespace PromptGraph

inductive Json where
  | null
  | bool (value : Bool)
  | number (value : Json.Number)
  | string (value : String)
  | array (items : List Json)
  | object (members : List (String × Json))

namespace Json

/-- The two hexadecimal digits of a number below 256. -/
def hexPair (n : Nat) : List Char := [Nat.digitChar (n / 16), Nat.digitChar (n % 16)]

/-- A character within quotes. Only the quote, the backslash and the control characters are
escaped. -/
def escape (c : Char) : List Char :=
  match c with
  | '"' => ['\\', '"']
  | '\\' => ['\\', '\\']
  | '\x08' => ['\\', 'b']
  | '\t' => ['\\', 't']
  | '\n' => ['\\', 'n']
  | '\x0c' => ['\\', 'f']
  | '\r' => ['\\', 'r']
  | c => if c.toNat < 0x20 then '\\' :: 'u' :: '0' :: '0' :: hexPair c.toNat else [c]

def quote (s : String) : List Char := '"' :: s.toList.flatMap escape ++ ['"']

/-- What fills the gaps of a text: the break before a token at a level, and the space after a
colon. -/
structure Gaps where
  lineBreak : Nat → List Char
  afterColon : List Char

def Gaps.none : Gaps := ⟨fun _ => [], []⟩

def Gaps.indented : Gaps := ⟨fun level => '\n' :: List.replicate (2 * level) ' ', [' ']⟩

mutual

/-- The text of a document whose first character stands at a level. -/
def chars (gaps : Gaps) (level : Nat) : Json → List Char
  | .null => "null".toList
  | .bool true => "true".toList
  | .bool false => "false".toList
  | .number n => n.text
  | .string s => quote s
  | .array [] => ['[', ']']
  | .array (x :: xs) =>
    '[' :: gaps.lineBreak (level + 1) ++ x.chars gaps (level + 1) ++ itemsChars gaps level xs
  | .object [] => ['\x7b', '\x7d']
  | .object ((k, v) :: ms) =>
    '\x7b' :: gaps.lineBreak (level + 1) ++ quote k ++ ':' :: gaps.afterColon ++
      v.chars gaps (level + 1) ++ membersChars gaps level ms

/-- The rest of an array after an item. -/
def itemsChars (gaps : Gaps) (level : Nat) : List Json → List Char
  | [] => gaps.lineBreak level ++ [']']
  | x :: xs =>
    ',' :: gaps.lineBreak (level + 1) ++ x.chars gaps (level + 1) ++ itemsChars gaps level xs

/-- The rest of an object after a member. -/
def membersChars (gaps : Gaps) (level : Nat) : List (String × Json) → List Char
  | [] => gaps.lineBreak level ++ ['\x7d']
  | (k, v) :: ms =>
    ',' :: gaps.lineBreak (level + 1) ++ quote k ++ ':' :: gaps.afterColon ++
      v.chars gaps (level + 1) ++ membersChars gaps level ms

end

def compact (j : Json) : String := String.ofList (j.chars .none 0)

def pretty (j : Json) : String := String.ofList (j.chars .indented 0)

mutual

/-- The levels of arrays and objects in a document: none for a scalar. -/
def depth : Json → Nat
  | .array xs => itemsDepth xs + 1
  | .object ms => membersDepth ms + 1
  | _ => 0

def itemsDepth : List Json → Nat
  | [] => 0
  | x :: xs => max x.depth (itemsDepth xs)

def membersDepth : List (String × Json) → Nat
  | [] => 0
  | (_, v) :: ms => max v.depth (membersDepth ms)

end

mutual

/-- Equality of documents, numbers being compared as numbers. -/
def agrees : Json → Json → Bool
  | .null, .null => true
  | .bool a, .bool b => a == b
  | .number m, .number n => m.agrees n
  | .string s, .string t => s == t
  | .array xs, .array ys => itemsAgree xs ys
  | .object ms, .object ns => membersAgree ms ns
  | _, _ => false

def itemsAgree : List Json → List Json → Bool
  | [], [] => true
  | x :: xs, y :: ys => x.agrees y && itemsAgree xs ys
  | _, _ => false

def membersAgree : List (String × Json) → List (String × Json) → Bool
  | [], [] => true
  | (k, v) :: ms, (l, w) :: ns => k == l && v.agrees w && membersAgree ms ns
  | _, _ => false

end

example : (object [("a", array [null, bool true]), ("b", object [])]).compact =
    "\x7b\"a\":[null,true],\"b\":\x7b\x7d\x7d" := by decide

example : (array [null, array []]).pretty = "[\n  null,\n  []\n]" := by decide

end Json

end PromptGraph
