import TableStore.FileSystem.Path
import TableStore.Text.Ascii
import TableStore.Text.Utf8

/-!
# Request targets

The path of a target chooses what a request is about. Only the name of a table is percent-decoded,
after the path has been taken apart.
-/

namespace TableStore.Http

/-- The octet that three octets spell, if they are an escape `%XY`. -/
def escape? (mark high low : UInt8) : Option UInt8 :=
  if mark = Ascii.percent then
    (Ascii.hexValue? high).bind fun high =>
      (Ascii.hexValue? low).map fun low => UInt8.ofNat (high * 16 + low)
  else none

/-- The octets with every escape replaced; a percent sign that starts none stays. -/
def percentDecode : Bytes → Bytes
  | mark :: high :: low :: rest =>
    match escape? mark high low with
    | some octet => octet :: percentDecode rest
    | none => mark :: percentDecode (high :: low :: rest)
  | octets => octets

/-- What a request is about. -/
inductive Route where
  | health
  | tables
  /-- One table, by the segment of the path that names it. -/
  | table (segment : String)
  | query
deriving DecidableEq, Repr

/-- Whether a character may stand in a path, which a query string or a fragment ends. -/
def isPathChar (c : Char) : Bool :=
  c ≠ '?' && c ≠ '#'

def isSchemeChar (c : Char) : Bool :=
  c.isAlphanum || c = '+' || c = '-' || c = '.'

/-- What comes after a scheme and an authority, nothing if there is no scheme. -/
def afterAuthority (target : List Char) : List Char :=
  match target.dropWhile isSchemeChar with
  | ':' :: '/' :: '/' :: rest => rest.dropWhile fun c => c ≠ '/' && isPathChar c
  | _ => []

/-- The path of a target. A target that does not start with its path names a scheme and an authority
first, or has no path. -/
def pathOf (target : String) : List Char :=
  match target.toList with
  | '/' :: rest => '/' :: rest.takeWhile isPathChar
  | cs => (afterAuthority cs).takeWhile isPathChar

/-- The route of a target, if there is one. -/
def Route.ofTarget? (target : String) : Option Route :=
  match (splitAll '/' (pathOf target)).map String.ofList with
  | ["", "health"] => some .health
  | ["", "tables"] => some .tables
  | ["", "tables", segment] => if segment = "" then none else some (.table segment)
  | ["", "query"] => some .query
  | _ => none

/-- The table that a segment names, unless its octets are no text. -/
def tableName? (segment : String) : Option String :=
  (Utf8.decode (percentDecode (Utf8.encode segment))).toOption

end TableStore.Http
