import PromptGraph.Json.Fault
import PromptGraph.Json.Literal

/-!
Drafts: what a JSON text says as far as it can be read.

A draft is a document in which some place may be broken: there the text ends too early or is
malformed. Who reads a draft from left to right meets the problems of the text in their order,
be they faults of the text or values of the wrong kind. Each part of a draft knows what is left of
the text where it begins or ends.
-/

namespace PromptGraph.Json

/-- One step of a quoted text: a character, or a UTF-16 unit given by number, with what is left of
the text after it. -/
inductive Piece where
  | char (c : Char)
  | unit (n : Nat) (rest : List Char)
deriving DecidableEq

/-- A quoted text, whole or broken off. -/
structure RawText where
  pieces : List Piece
  ending : Ending

namespace RawText

def isLead (n : Nat) : Bool := 0xD800 ≤ n && n < 0xDC00

def isTrail (n : Nat) : Bool := 0xDC00 ≤ n && n < 0xE000

/-- The character of a pair of surrogates. -/
def pair (lead trail : Nat) : Char :=
  Char.ofNat (0x10000 + (lead - 0xD800) * 0x400 + (trail - 0xDC00))

/-- The fault of a leading surrogate that no unit follows, from the text after it. -/
def unpaired (ending : Ending) : List Char → Fault
  | [] | ['\\'] => .atEnd .endInString
  | '\\' :: 'u' :: _ =>
    match ending with
    | .broken why => why.reading
    | .closed rest => .before .unfinishedPair rest
  | '\\' :: rest => .within .unfinishedPair rest
  | rest => .within .unfinishedPair rest

/-- The characters of a quoted text. A leading surrogate and a trailing one right after it are one
character; elsewhere a surrogate is a fault. -/
def decodePieces (ending : Ending) : List Piece → Except Fault (List Char)
  | [] => ending.rest.map fun _ => []
  | .char c :: ps => (decodePieces ending ps).map (c :: ·)
  | .unit n rest :: ps =>
    if isTrail n then .error (.before .loneSurrogate rest)
    else if isLead n then
      match ps with
      | .unit m rest :: ps =>
        if isTrail m then (decodePieces ending ps).map (pair n m :: ·)
        else .error (.before .loneSurrogate rest)
      | _ => .error (unpaired ending rest)
    else (decodePieces ending ps).map (Char.ofNat n :: ·)

def decode (t : RawText) : Except Fault String :=
  (decodePieces t.ending t.pieces).map String.ofList

end RawText

/-- The start of a number is what is left of the text after its sign, that of an array or an object
what is left at its bracket. -/
inductive Draft where
  | null (rest : List Char)
  | bool (value : Bool) (rest : List Char)
  | number (value : Numeral) (start rest : List Char)
  | text (value : RawText)
  | array (start : List Char) (items : List Draft) (ending : Ending)
  | object (start : List Char) (members : List (RawText × Draft)) (ending : Ending)
  | broken (why : Break)

namespace Draft

/-- What is left of the text after a draft, if it is not broken. -/
def rest : Draft → Except Fault (List Char)
  | .null rest | .bool _ rest | .number _ _ rest => .ok rest
  | .text t => t.ending.rest
  | .array _ _ ending | .object _ _ ending => ending.rest
  | .broken why => .error why.reading

mutual

/-- The first fault of a draft that is passed over. Only the grammar counts here: numbers may be
out of range, surrogates stand alone, and brackets nest to any depth. -/
def skip : Draft → Option Fault
  | .text t => t.ending.skip
  | .array _ items ending => skipItems ending items
  | .object _ members ending => skipMembers ending members
  | .broken why => some why.skipping
  | .null _ | .bool _ _ | .number _ _ _ => none

def skipItems (ending : Ending) : List Draft → Option Fault
  | [] => ending.skip
  | d :: ds => d.skip <|> skipItems ending ds

def skipMembers (ending : Ending) : List (RawText × Draft) → Option Fault
  | [] => ending.skip
  | (key, d) :: ms => key.ending.skip <|> d.skip <|> skipMembers ending ms

end

/-- The greatest exponent that is read to its end: beyond it a number is out of range at once. -/
def greatestExponent : Nat := 2147483647

/-- What is left of the digits of an exponent once it is too great. -/
def afterOverflow (exponent : Nat) : List Char → List Char
  | [] => []
  | c :: cs =>
    let exponent := 10 * exponent + Digits.weight c
    if greatestExponent < exponent then cs else afterOverflow exponent cs

/-- The fault of a numeral that stands for no number, between what is left of the text at its start
and after it. -/
def outOfRange (n : Numeral) (start rest : List Char) : Fault :=
  if (n.exponent.getD 0).natAbs ≤ greatestExponent then .before .numberOutOfRange rest
  else
    let afterMark := (start.dropWhile fun c => c != 'e' && c != 'E').drop 1
    .before .numberOutOfRange (afterOverflow 0 (Digits.splitSign afterMark).2)

/-- The number of a numeral, between what is left of the text at its start and after it. -/
def readNumber (n : Numeral) (start rest : List Char) : Except Fault Number :=
  match n.number? with
  | some x => .ok x
  | none => .error (outOfRange n start rest)

mutual

/-- The document of a draft, whose brackets may nest `levels` deep. -/
def json : Nat → Draft → Except Fault Json
  | _, .null _ => .ok .null
  | _, .bool b _ => .ok (.bool b)
  | _, .number n start rest => (readNumber n start rest).map .number
  | _, .text t => t.decode.map .string
  | 0, .array start _ _ | 0, .object start _ _ => .error (.within .tooDeep start)
  | levels + 1, .array _ items ending => (itemsJson levels ending items).map .array
  | levels + 1, .object _ members ending => (membersJson levels ending members).map .object
  | _, .broken why => .error why.reading

def itemsJson (levels : Nat) (ending : Ending) : List Draft → Except Fault (List Json)
  | [] => ending.rest.map fun _ => []
  | d :: ds => do
    let x ← d.json levels
    let xs ← itemsJson levels ending ds
    return x :: xs

def membersJson (levels : Nat) (ending : Ending) :
    List (RawText × Draft) → Except Fault (List (String × Json))
  | [] => ending.rest.map fun _ => []
  | (key, d) :: ms => do
    let k ← key.decode
    let v ← d.json levels
    let rest ← membersJson levels ending ms
    return (k, v) :: rest

end

end Draft

end PromptGraph.Json
