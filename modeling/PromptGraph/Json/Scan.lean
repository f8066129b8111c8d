import PromptGraph.Json.Draft

/-!
Scanning a text into a draft.

Each scanner takes what is left of the text and gives what it read and what is left then; after a
fault nothing is left. The scanners of nested values count down a bound on the characters left.
-/

namespace PromptGraph.Json.Scan

/-- The characters that may stand between tokens. -/
def isGap (c : Char) : Bool := c == ' ' || c == '\t' || c == '\n' || c == '\r'

def skipGap (cs : List Char) : List Char := cs.dropWhile isGap

/-- The letters of a word, one by one. -/
def word (value : List Char → Draft) : List Char → List Char → Draft × List Char
  | [], cs => (value cs, cs)
  | _ :: _, [] => (.broken (Fault.atEnd .endInValue).always, [])
  | w :: ws, c :: cs =>
    if w = c then word value ws cs
    else (.broken (Fault.within .expectedWord (c :: cs)).always, [])

def hexDigit? (c : Char) : Option Nat :=
  if c.isDigit then some (c.toNat - '0'.toNat)
  else if 'a' ≤ c && c ≤ 'f' then some (c.toNat - 'a'.toNat + 10)
  else if 'A' ≤ c && c ≤ 'F' then some (c.toNat - 'A'.toNat + 10)
  else none

/-- The unit that four hexadecimal digits give. -/
def hexUnit? (a b c d : Char) : Option Nat := do
  let a ← hexDigit? a
  let b ← hexDigit? b
  let c ← hexDigit? c
  let d ← hexDigit? d
  return ((a * 16 + b) * 16 + c) * 16 + d

/-- The character that an escape of one letter stands for. -/
def shortEscape? : Char → Option Char
  | '"' => some '"'
  | '\\' => some '\\'
  | '/' => some '/'
  | 'b' => some '\x08'
  | 'f' => some '\x0c'
  | 'n' => some '\n'
  | 'r' => some '\r'
  | 't' => some '\t'
  | _ => none

/-- A quoted text that breaks off. -/
def breakOff (why : Break) : RawText × List Char := (⟨[], .broken why⟩, [])

def prepend (p : Piece) (t : RawText × List Char) : RawText × List Char :=
  (⟨p :: t.1.pieces, t.1.ending⟩, t.2)

/-- The fault of an escape by number that is none. It takes four bytes of the text; where fewer are
left, the text ends too early. -/
def badUnit (cs : List Char) : Fault :=
  if byteLength cs < 4 then .atEnd .endInString else ⟨.invalidEscape, ⟨cs, 4⟩⟩

/-- The break at a control character within quotes: who passes over the text notices it before the
character. -/
def controlBreak (cs : List Char) : Break :=
  ⟨.within .controlCharacter cs, .before .controlCharacter cs⟩

/-- A quoted text, after its first quote. -/
def quoted : List Char → RawText × List Char
  | [] => breakOff (Fault.atEnd .endInString).always
  | '"' :: cs => (⟨[], .closed cs⟩, cs)
  | ['\\'] => breakOff (Fault.atEnd .endInString).always
  | '\\' :: 'u' :: a :: b :: c :: d :: cs =>
    match hexUnit? a b c d with
    | some n => prepend (.unit n cs) (quoted cs)
    | none => breakOff (badUnit (a :: b :: c :: d :: cs)).always
  | '\\' :: 'u' :: cs => breakOff (badUnit cs).always
  | '\\' :: e :: cs =>
    match shortEscape? e with
    | some c => prepend (.char c) (quoted cs)
    | none => breakOff (Fault.within .invalidEscape (e :: cs)).always
  | c :: cs =>
    if c.toNat < 0x20 then breakOff (controlBreak (c :: cs)) else prepend (.char c) (quoted cs)

/-- The break in a number where `rest` is left. Who passes over the number does not tell an end of
the text from a wrong character. -/
def numberBreak (rest : List Char) : Break :=
  ⟨.unexpected .endInValue .invalidNumber rest,
    .unexpected .invalidNumber .invalidNumber rest⟩

/-- At least one digit. -/
def digits (cs : List Char) : Except Break (List Char × List Char) :=
  let rest := cs.dropWhile Char.isDigit
  match cs.takeWhile Char.isDigit with
  | [] => .error (numberBreak rest)
  | ds => .ok (ds, rest)

/-- The digits before the point: a zero there stands alone. -/
def wholeDigits : List Char → Except Break (List Char × List Char)
  | '0' :: c :: cs =>
    if c.isDigit then .error (numberBreak (c :: cs)) else .ok (['0'], c :: cs)
  | cs => digits cs

def fractionDigits : List Char → Except Break (List Char × List Char)
  | '.' :: cs => digits cs
  | cs => .ok ([], cs)

def exponent (cs : List Char) : Except Break (Option Int × List Char) :=
  match cs with
  | c :: r =>
    if c = 'e' || c = 'E' then do
      let (negative, r) := Digits.splitSign r
      let (ds, rest) ← digits r
      let n := Digits.value ds
      return (some (if negative then -n else n), rest)
    else .ok (none, cs)
  | [] => .ok (none, [])

def numeral (negative : Bool) (cs : List Char) : Except Break (Numeral × List Char) := do
  let (whole, cs) ← wholeDigits cs
  let (fraction, cs) ← fractionDigits cs
  let (exponent, cs) ← exponent cs
  return (⟨negative, whole, fraction, exponent⟩, cs)

/-- A number, after its sign. -/
def number (negative : Bool) (cs : List Char) : Draft × List Char :=
  match numeral negative cs with
  | .ok (n, rest) => (.number n cs rest, rest)
  | .error why => (.broken why, [])

/-- The break in an array where `rest` is left after a comma. -/
def afterComma (rest : List Char) : Break :=
  ⟨.within .trailingComma rest, .within .expectedValue rest⟩

/-- The break in an object where no key comes. After a comma, who reads the object tells a closing
brace from other characters, and takes an end of the text for that of a value. -/
def noKey (first : Bool) (rest : List Char) : Break :=
  match first, rest with
  | false, [] => ⟨.atEnd .endInValue, .atEnd .endInObject⟩
  | false, '\x7d' :: _ => ⟨.within .trailingComma rest, .within .keyNotString rest⟩
  | _, _ => (Fault.unexpected .endInObject .keyNotString rest).always

mutual

def value : Nat → List Char → Draft × List Char
  | 0, cs => (.broken (Fault.unexpected .endInValue .expectedValue cs).always, [])
  | bound + 1, cs =>
    match skipGap cs with
    | 'n' :: cs => word .null ['u', 'l', 'l'] cs
    | 't' :: cs => word (.bool true) ['r', 'u', 'e'] cs
    | 'f' :: cs => word (.bool false) ['a', 'l', 's', 'e'] cs
    | '"' :: cs =>
      let (t, rest) := quoted cs
      (.text t, rest)
    | '-' :: cs => number true cs
    | '[' :: cs =>
      let start := '[' :: cs
      match skipGap cs with
      | ']' :: rest => (.array start [] (.closed rest), rest)
      | [] => (.array start [] (.broken (Fault.atEnd .endInArray).always), [])
      | cs =>
        let (d, rest) := value bound cs
        let (ds, ending, rest) := items bound rest
        (.array start (d :: ds) ending, rest)
    | '\x7b' :: cs =>
      let start := '\x7b' :: cs
      match skipGap cs with
      | '\x7d' :: rest => (.object start [] (.closed rest), rest)
      | cs =>
        let (ms, ending, rest) := member bound true cs
        (.object start ms ending, rest)
    | c :: cs =>
      if c.isDigit then number false (c :: cs)
      else (.broken (Fault.within .expectedValue (c :: cs)).always, [])
    | [] => (.broken (Fault.atEnd .endInValue).always, [])

/-- The rest of an array after an item. -/
def items : Nat → List Char → List Draft × Ending × List Char
  | 0, cs => ([], .broken (Fault.unexpected .endInArray .expectedCommaOrBracket cs).always, [])
  | bound + 1, cs =>
    match skipGap cs with
    | ']' :: rest => ([], .closed rest, rest)
    | ',' :: cs =>
      match skipGap cs with
      | ']' :: rest => ([], .broken (afterComma (']' :: rest)), [])
      | cs =>
        let (d, rest) := value bound cs
        let (ds, ending, rest) := items bound rest
        (d :: ds, ending, rest)
    | cs => ([], .broken (Fault.unexpected .endInArray .expectedCommaOrBracket cs).always, [])

/-- The rest of an object from a key on, which may be the first. -/
def member : Nat → Bool → List Char → List (RawText × Draft) × Ending × List Char
  | 0, first, cs => ([], .broken (noKey first cs), [])
  | bound + 1, first, cs =>
    match skipGap cs with
    | '"' :: cs =>
      let (key, rest) := quoted cs
      match skipGap rest with
      | ':' :: cs =>
        let (d, rest) := value bound cs
        let (ms, ending, rest) := members bound rest
        ((key, d) :: ms, ending, rest)
      | rest =>
        let why := (Fault.unexpected .endInObject .expectedColon rest).always
        ([(key, .broken why)], .broken why, [])
    | cs => ([], .broken (noKey first cs), [])

/-- The rest of an object after a member. -/
def members : Nat → List Char → List (RawText × Draft) × Ending × List Char
  | 0, cs => ([], .broken (Fault.unexpected .endInObject .expectedCommaOrBrace cs).always, [])
  | bound + 1, cs =>
    match skipGap cs with
    | '\x7d' :: rest => ([], .closed rest, rest)
    | ',' :: cs => member bound false cs
    | cs => ([], .broken (Fault.unexpected .endInObject .expectedCommaOrBrace cs).always, [])

end

/-- The draft at the head of a text, and what follows it. -/
def draft (cs : List Char) : Draft × List Char := value (cs.length + 1) cs

/-- Closes an array all of whose items are read, from the text after the last one: nothing may
stand there but the bracket. -/
def closeArray (cs : List Char) : Except Fault Unit :=
  match skipGap cs with
  | ']' :: _ => .ok ()
  | [] => .error (.atEnd .endInArray)
  | ',' :: cs =>
    match skipGap cs with
    | ']' :: rest => .error (.within .trailingComma (']' :: rest))
    | rest => .error (.within .trailingCharacters rest)
  | rest => .error (.within .trailingCharacters rest)

/-- What is left of an object that is given up after a key or a member: the brace is still taken,
if it comes next. -/
def giveUp (cs : List Char) : List Char :=
  match skipGap cs with
  | '\x7d' :: rest => rest
  | rest => rest

end PromptGraph.Json.Scan
