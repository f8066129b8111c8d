import PromptGraph.Text.Place

/-!
What is wrong with a text as JSON, and where.

A text can end too early or go on in a wrong way. A fault that lies in a character is placed after
the first byte of the character.
-/

namespace PromptGraph.Json

inductive Cause where
  | endInArray
  | endInObject
  | endInString
  | endInValue
  | expectedColon
  | expectedCommaOrBracket
  | expectedCommaOrBrace
  | expectedWord
  | expectedValue
  | invalidEscape
  | invalidNumber
  | numberOutOfRange
  | controlCharacter
  | keyNotString
  | loneSurrogate
  | unfinishedPair
  | trailingComma
  | trailingCharacters
  | tooDeep
deriving DecidableEq, Repr

namespace Cause

/-- The text ends too early. -/
def isTruncation : Cause → Bool
  | .endInArray | .endInObject | .endInString | .endInValue => true
  | _ => false

def text : Cause → String
  | .endInArray => "EOF while parsing a list"
  | .endInObject => "EOF while parsing an object"
  | .endInString => "EOF while parsing a string"
  | .endInValue => "EOF while parsing a value"
  | .expectedColon => "expected `:`"
  | .expectedCommaOrBracket => "expected `,` or `]`"
  | .expectedCommaOrBrace => "expected `,` or `\x7d`"
  | .expectedWord => "expected ident"
  | .expectedValue => "expected value"
  | .invalidEscape => "invalid escape"
  | .invalidNumber => "invalid number"
  | .numberOutOfRange => "number out of range"
  | .controlCharacter => "control character (\\u0000-\\u001F) found while parsing a string"
  | .keyNotString => "key must be a string"
  | .loneSurrogate => "lone leading surrogate in hex escape"
  | .unfinishedPair => "unexpected end of hex escape"
  | .trailingComma => "trailing comma"
  | .trailingCharacters => "trailing characters"
  | .tooDeep => "recursion limit exceeded"

end Cause

structure Fault where
  cause : Cause
  place : Place

namespace Fault

/-- A fault noticed where `rest` is left. -/
def before (cause : Cause) (rest : List Char) : Fault := ⟨cause, .before rest⟩

/-- A fault that lies in the next character of what is left. -/
def within (cause : Cause) (rest : List Char) : Fault := ⟨cause, .within rest⟩

def atEnd (cause : Cause) : Fault := ⟨cause, .before []⟩

/-- The text ends where `rest` is left, or its next character is the wrong one. -/
def unexpected (ending wrong : Cause) : List Char → Fault
  | [] => atEnd ending
  | c :: cs => within wrong (c :: cs)

end Fault

/-- Where a text breaks off: the fault for who reads the value there, and the one for who passes
over it. -/
structure Break where
  reading : Fault
  skipping : Fault

/-- The same fault for every reader. -/
def Fault.always (f : Fault) : Break := ⟨f, f⟩

/-- How a quoted text, an array or an object ends: closed, with so much of the text left, or broken
off. -/
inductive Ending where
  | closed (rest : List Char)
  | broken (why : Break)

namespace Ending

/-- The fault at the end, if any, for who passes over the value. -/
def skip : Ending → Option Fault
  | .closed _ => none
  | .broken why => some why.skipping

/-- What is left of the text after the end. -/
def rest : Ending → Except Fault (List Char)
  | .closed rest => .ok rest
  | .broken why => .error why.reading

end Ending

end PromptGraph.Json
