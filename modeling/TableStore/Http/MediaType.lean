/-!
# Media types

The boundary that the media type of a multipart form announces.
-/

namespace TableStore.Http

def isTokenChar (c : Char) : Bool :=
  c.isAlphanum || "!#$%&'*+-.^_`|~".toList.contains c

def isQuotable (c : Char) : Bool :=
  0x20 ≤ c.toNat && c.toNat ≠ 0x7F

def lower (cs : List Char) : List Char :=
  cs.map Char.toLower

/-- A value up to its closing quote, and the characters after it. -/
def readToQuote : List Char → Option (List Char × List Char)
  | [] => none
  | c :: rest =>
    if c = '"' then some ([], rest)
    else if isQuotable c then
      (readToQuote rest).map fun (value, rest) => (c :: value, rest)
    else none

/-- A quoted value after its opening quote, and the characters after it. It has at least one
character, which may itself be a quote; there are no escapes. -/
def readQuotedValue : List Char → Option (List Char × List Char)
  | [] => none
  | c :: rest =>
    if isQuotable c then (readToQuote rest).map fun (value, rest) => (c :: value, rest)
    else none

/-- What follows a semicolon that comes next; nothing at the end. -/
def afterSemicolon : List Char → Option (List Char)
  | [] => some []
  | ';' :: rest => some rest
  | _ => none

/-- The value of a parameter, whose name and equals sign are read, and the parameters after it. -/
def readParameterValue (input : List Char) : Option (List Char × List Char) := do
  match input with
  | '"' :: quoted =>
    let (value, rest) ← readQuotedValue quoted
    let rest ← afterSemicolon (rest.dropWhile (· = ' '))
    return (value, rest)
  | _ =>
    let value := input.takeWhile isTokenChar
    let rest := input.dropWhile isTokenChar
    if value.isEmpty && !rest.isEmpty then none
    return (value, ← afterSemicolon rest)

/-- The parameters of a media type, names in lower case. The fuel bounds their number. -/
def readParameters : Nat → List Char → Option (List (List Char × List Char))
  | 0, _ => some []
  | fuel + 1, input => do
    let input := input.dropWhile (· = ' ')
    if input.isEmpty then return []
    let name := input.takeWhile isTokenChar
    match name, input.dropWhile isTokenChar with
    | _ :: _, '=' :: rest =>
      let (value, rest) ← readParameterValue rest
      let others ← readParameters fuel rest
      return (lower name, value) :: others
    | _, _ => none

/-- A subtype without the suffix that its last plus sign starts. A plus sign in front starts
none. -/
def withoutSuffix (subtype : List Char) : List Char :=
  let before := (subtype.reverse.dropWhile (· ≠ '+')).drop 1
  if before.isEmpty then subtype else before.reverse

/-- The boundary of a multipart form. -/
def boundary? (mediaType : String) : Option String := do
  let input := mediaType.toList
  if !input.all fun c => 0x20 ≤ c.toNat && c.toNat < 0x7F then none
  let kind := input.takeWhile isTokenChar
  match input.dropWhile isTokenChar with
  | '/' :: rest =>
    let subtype := rest.takeWhile isTokenChar
    let parameters ← afterSemicolon (rest.dropWhile isTokenChar)
    let parameters ← readParameters parameters.length parameters
    if lower kind = "multipart".toList
        && lower (withoutSuffix subtype) = "form-data".toList then
      (parameters.find? (·.1 = "boundary".toList)).map fun parameter => String.ofList parameter.2
    else none
  | _ => none

end TableStore.Http
