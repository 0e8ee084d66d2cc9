import TableStore.Decimal.Shortest
import TableStore.Text.Ascii
import TableStore.Text.Quoted
import TableStore.Text.Utf8

/-!
# Faults in JSON texts

What can be wrong with a JSON text, where it is found, and how a message says so. A fault is kept
relative to the octets not yet read; lines and columns are counted from the whole text at the end.
-/

namespace TableStore.Json

/-! ## Causes -/

/-- A number as the reader holds it: whole if 64 bits suffice, else a double. -/
inductive Number where
  | whole (n : Int)
  | double (x : Float)

/-- How doubles are written in messages. -/
def doubleFormat : Decimal.Format := ⟨-5, 15⟩

/-- The value found where another kind of value had to stand. -/
inductive Found where
  | null
  | boolean (b : Bool)
  | number (n : Number)
  | string (s : String)
  | sequence
  | map

def Found.text : Found → String
  | .null => "null"
  | .boolean b => s!"boolean `{b}`"
  | .number (.whole n) => s!"integer `{n}`"
  | .number (.double x) => s!"floating point `{doubleFormat.float x}`"
  | .string s => s!"string {Text.quoted s}"
  | .sequence => "sequence"
  | .map => "map"

inductive Cause where
  | endInValue
  | endInList
  | endInObject
  | endInString
  | expectedValue
  | expectedIdent
  | expectedColon
  | expectedListEnd
  | expectedObjectEnd
  | keyNotString
  | trailingComma
  | trailingCharacters
  | invalidNumber
  | numberOutOfRange
  | invalidEscape
  | unexpectedEndOfHex
  | loneSurrogate
  | controlCharacter
  | invalidUnicode
  | missingField (field : String)
  | duplicateField (field : String)
  | invalidLength (length : Nat) (expected : String)
  | invalidType (found : Found) (expected : String)

def Cause.text : Cause → String
  | .endInValue => "EOF while parsing a value"
  | .endInList => "EOF while parsing a list"
  | .endInObject => "EOF while parsing an object"
  | .endInString => "EOF while parsing a string"
  | .expectedValue => "expected value"
  | .expectedIdent => "expected ident"
  | .expectedColon => "expected `:`"
  | .expectedListEnd => "expected `,` or `]`"
  | .expectedObjectEnd => "expected `,` or `\x7d`"
  | .keyNotString => "key must be a string"
  | .trailingComma => "trailing comma"
  | .trailingCharacters => "trailing characters"
  | .invalidNumber => "invalid number"
  | .numberOutOfRange => "number out of range"
  | .invalidEscape => "invalid escape"
  | .unexpectedEndOfHex => "unexpected end of hex escape"
  | .loneSurrogate => "lone leading surrogate in hex escape"
  | .controlCharacter => "control character (\\u0000-\\u001F) found while parsing a string"
  | .invalidUnicode => "invalid unicode code point"
  | .missingField field => s!"missing field `{field}`"
  | .duplicateField field => s!"duplicate field `{field}`"
  | .invalidLength length expected => s!"invalid length {length}, expected {expected}"
  | .invalidType found expected => s!"invalid type: {found.text}, expected {expected}"

/-! ## Places -/

/-- Which octet a fault is reported at. -/
inductive Place where
  /-- The last octet read. -/
  | last
  /-- The octet after it, which was looked at but not read. -/
  | next
  /-- The last octet read; but a stream has to take an octet to look at it, and counts it. -/
  | ahead
deriving DecidableEq, Repr

/-- A cause, a place, and the number of octets not yet read. -/
structure Fault where
  cause : Cause
  place : Place
  left : Nat

/-- Where the octets come from. -/
inductive Source where
  | buffer
  | stream
deriving DecidableEq, Repr

/-- How many octets come up to the place of a fault. The end of the text has no next octet. -/
def Fault.offset (fault : Fault) (source : Source) (total : Nat) : Nat :=
  let counted := match fault.place, source with
    | .last, _ => 0
    | .next, _ => 1
    | .ahead, .buffer => 0
    | .ahead, .stream => 1
  total - fault.left + min counted fault.left

/-- A line, counted from one, and the octets of it that come up to a place. -/
structure Position where
  line : Nat
  column : Nat
deriving DecidableEq, Repr

/-- The position after some octets. -/
def Position.after (read : Bytes) : Position where
  line := read.count Ascii.lineFeed + 1
  column := (read.reverse.takeWhile (· ≠ Ascii.lineFeed)).length

/-- A fault as it is reported, apart from the text it was found in. -/
structure Report where
  cause : Cause
  position : Position

/-- Finds the position of a fault in its text. -/
def Fault.report (fault : Fault) (source : Source) (input : Bytes) : Report :=
  ⟨fault.cause, Position.after (input.take (fault.offset source input.length))⟩

def Report.message (report : Report) : String :=
  s!"{report.cause.text} at line {report.position.line} column {report.position.column}"

/-- Stops with a fault before the given octets. -/
def stop {α : Type} (cause : Cause) (place : Place) (rest : Bytes) : Except Fault α :=
  .error ⟨cause, place, rest.length⟩

end TableStore.Json
