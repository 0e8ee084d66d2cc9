import TableStore.Text.Ascii
import TableStore.Text.Quoted
import TableStore.Text.Utf8

/-!
# Multipart forms

A form is parts between lines of two dashes and a boundary; two dashes after a boundary end it.
A part is headers, an empty line and data; its disposition header holds its name and, for a file,
the file's name. What comes before the first boundary is passed over.
-/

namespace TableStore.Http.Multipart

/-! ## Faults -/

/-- What is wrong with a form. -/
inductive Fault where
  /-- It ends, or goes on with something else, where a boundary or headers had to stand. -/
  | incompleteStream
  /-- It ends inside the data of a part. -/
  | incompleteField (name : Option String)
  /-- The headers of a part are malformed, or too many. -/
  | badHeaders
deriving DecidableEq, Repr

def Fault.message : Fault → String
  | .incompleteStream => "incomplete multipart stream"
  | .incompleteField name =>
    "field " ++ Text.quoted (name.getD "<unknown>") ++ " received with incomplete data"
  | .badHeaders => "failed to read headers"

/-! ## Searching -/

/-- The octets before the first occurrence of a pattern, and those from it on. -/
def splitAt? (pattern : Bytes) : Bytes → Option (Bytes × Bytes)
  | [] => if pattern.isEmpty then some ([], []) else none
  | b :: rest =>
    if pattern.isPrefixOf (b :: rest) then some ([], b :: rest)
    else (splitAt? pattern rest).map fun (before, found) => (b :: before, found)

theorem splitAt?_length {pattern input before found : Bytes}
    (h : splitAt? pattern input = some (before, found)) :
    before.length + found.length = input.length := by
  induction input generalizing before with
  | nil =>
    unfold splitAt? at h
    split at h <;> simp_all
  | cons b rest ih =>
    unfold splitAt? at h
    split at h
    · simp_all
    · obtain ⟨⟨before', found'⟩, hr, he⟩ := Option.map_eq_some_iff.1 h
      simp only [Prod.mk.injEq] at he
      obtain ⟨rfl, rfl⟩ := he
      have := ih hr
      simp only [List.length_cons]
      omega

def lineEnd : Bytes := [Ascii.carriageReturn, Ascii.lineFeed]

def dashes : Bytes := [Ascii.minus, Ascii.minus]

/-- A boundary as it stands in a form. -/
def delimiter (boundary : String) : Bytes := dashes ++ Utf8.encode boundary

/-! ## Headers -/

def isNameOctet (b : UInt8) : Bool :=
  let c := Char.ofNat b.toNat
  c.isAlphanum || "!#$%&'*+-.^_`|~".toList.contains c

def isValueOctet (b : UInt8) : Bool :=
  b = Ascii.tab || (0x20 ≤ b.toNat && b.toNat ≠ 0x7F)

/-- Whether an octet is a blank inside a line. -/
def isPadding (b : UInt8) : Bool :=
  b = Ascii.space || b = Ascii.tab

def maxHeaders : Nat := 32

/-- The octets after the end of a line: a line feed, with a carriage return before it or not. -/
def readLineEnd : Bytes → Option Bytes
  | [] => none
  | b :: rest =>
    if b = Ascii.lineFeed then some rest
    else if b = Ascii.carriageReturn && rest.head? = some Ascii.lineFeed then some rest.tail
    else none

/-- A header, name and value, and the octets after its line. -/
def readHeader (input : Bytes) : Option ((Bytes × Bytes) × Bytes) :=
  let name := input.takeWhile isNameOctet
  match input.dropWhile isNameOctet with
  | [] => none
  | c :: rest =>
    if c ≠ Ascii.colon || name.isEmpty then none
    else
      let rest := rest.dropWhile isPadding
      let value := (rest.takeWhile isValueOctet).reverse.dropWhile isPadding
      (readLineEnd (rest.dropWhile isValueOctet)).map fun rest => ((name, value.reverse), rest)

/-- Headers up to an empty line. The number bounds how many there may be. -/
def readHeaders : Nat → Bytes → Option (List (Bytes × Bytes))
  | allowed, input =>
    if (readLineEnd input).isSome then some []
    else
      match allowed with
      | 0 => none
      | allowed + 1 =>
        match readHeader input with
        | none => none
        | some (header, rest) => (readHeaders allowed rest).map (header :: ·)

/-! ## Dispositions -/

/-- Whether an octet is a blank between attributes. -/
def isBlank (b : UInt8) : Bool :=
  isPadding b || b = Ascii.lineFeed || b = Ascii.formFeed || b = Ascii.carriageReturn

/-- Whether an octet ends a value that is not quoted. -/
def endsValue (b : UInt8) : Bool :=
  b = Ascii.ofChar ';' || b = Ascii.space

/-- The octets after a given one, which blanks may come before. -/
def readMark (mark : UInt8) (input : Bytes) : Option Bytes :=
  match input.dropWhile isBlank with
  | [] => none
  | b :: rest => if b = mark then some rest else none

/-- A value up to its closing quote. A quote with a backslash before it is part of the value, and
the backslash is not. -/
def readQuoted : Bytes → Option Bytes
  | [] => none
  | [b] => if b = Ascii.quote then some [] else none
  | b :: c :: rest =>
    if b = Ascii.quote then some []
    else if b = Ascii.backslash && c = Ascii.quote then (readQuoted rest).map (c :: ·)
    else (readQuoted (c :: rest)).map (b :: ·)

/-- The value of an attribute whose name is already read. -/
def attributeValue? (input : Bytes) : Option Bytes :=
  (readMark (Ascii.ofChar '=') input).bind fun rest =>
    match readMark Ascii.quote rest with
    | some rest => readQuoted rest
    | none => some ((rest.dropWhile isBlank).takeWhile (!endsValue ·))

/-- The value of the first attribute with a name. Where the name only ends a longer one, what comes
after it is looked at afresh. The fuel bounds the occurrences of the name. -/
def attribute? (name : Bytes) : Nat → Bytes → Option Bytes
  | 0, _ => none
  | fuel + 1, input =>
    match splitAt? name input with
    | none => none
    | some (before, found) =>
      let rest := found.drop name.length
      if before.getLast?.all fun b => isBlank b || b = Ascii.ofChar ';' then attributeValue? rest
      else attribute? name fuel rest

def attributeText? (name : String) (disposition : Bytes) : Option String :=
  (attribute? (Utf8.encode name) (disposition.length + 1) disposition).bind fun value =>
    (Utf8.decode value).toOption

def lowerOctet (b : UInt8) : UInt8 :=
  if 0x41 ≤ b.toNat && b.toNat ≤ 0x5A then b + 0x20 else b

/-- The disposition among the headers; of several, the last one counts. -/
def disposition? (headers : List (Bytes × Bytes)) : Option Bytes :=
  let isDisposition (header : Bytes × Bytes) : Bool :=
    header.1.map lowerOctet = Utf8.encode "content-disposition"
  (headers.reverse.find? isDisposition).map (·.2)

/-! ## Parts -/

/-- A part of a form. -/
structure Part where
  name : Option String
  fileName : Option String
  data : Bytes
deriving DecidableEq, Repr

/-- The octets after a boundary line, from the boundary on; none after the last boundary. -/
def afterDelimiter (boundary : String) (input : Bytes) : Except Fault (Option Bytes) :=
  let mark := delimiter boundary
  if !mark.isPrefixOf input then .error .incompleteStream
  else
    let rest := input.drop mark.length
    if dashes.isPrefixOf rest then .ok none
    else if rest.length < dashes.length then .error .incompleteStream
    else
      let rest := rest.dropWhile isPadding
      if lineEnd.isPrefixOf rest then .ok (some (rest.drop lineEnd.length))
      else .error .incompleteStream

/-- The part whose headers start the octets, and the octets from the next boundary on. -/
def readPart (boundary : String) (input : Bytes) : Except Fault (Part × Bytes) :=
  match splitAt? (lineEnd ++ lineEnd) input with
  | none => .error .incompleteStream
  | some (before, found) =>
    match readHeaders maxHeaders (before ++ lineEnd ++ lineEnd) with
    | none => .error .badHeaders
    | some headers =>
      let valueOf (name : String) := (disposition? headers).bind (attributeText? name)
      let name := valueOf "name"
      match splitAt? (lineEnd ++ delimiter boundary) (found.drop 4) with
      | none => .error (.incompleteField name)
      | some (data, next) => .ok (⟨name, valueOf "filename", data⟩, next.drop lineEnd.length)

theorem afterDelimiter_length {boundary : String} {input rest : Bytes}
    (h : afterDelimiter boundary input = .ok (some rest)) : rest.length < input.length := by
  simp only [afterDelimiter] at h
  split at h
  · simp at h
  · split at h
    · simp at h
    · split at h
      · simp at h
      · next hlong =>
        split at h
        · simp only [Except.ok.injEq, Option.some.injEq] at h
          subst h
          have h₁ : 2 ≤ (input.drop (delimiter boundary).length).length := Nat.le_of_not_lt hlong
          have h₂ := (List.dropWhile_sublist (l := input.drop (delimiter boundary).length)
            isPadding).length_le
          simp only [List.length_drop, lineEnd, List.length_cons, List.length_nil] at h₁ h₂ ⊢
          omega
        · simp at h

theorem readPart_length {boundary : String} {input rest : Bytes} {part : Part}
    (h : readPart boundary input = .ok (part, rest)) : rest.length ≤ input.length := by
  simp only [readPart] at h
  split at h
  · simp at h
  · next hb =>
    split at h
    · simp at h
    · split at h
      · simp at h
      · next hn =>
        simp only [Except.ok.injEq, Prod.mk.injEq] at h
        obtain ⟨-, rfl⟩ := h
        have := splitAt?_length hb
        have := splitAt?_length hn
        simp only [List.length_drop] at *
        omega

/-- The first part with a name, from a boundary on; none if the form has no such part. What comes
after it does not matter. -/
def findFrom (boundary name : String) (input : Bytes) : Except Fault (Option Part) :=
  match _ha : afterDelimiter boundary input with
  | .error fault => .error fault
  | .ok none => .ok none
  | .ok (some rest) =>
    match _hp : readPart boundary rest with
    | .error fault => .error fault
    | .ok (part, rest) =>
      if part.name = some name then .ok (some part) else findFrom boundary name rest
termination_by input.length
decreasing_by exact Nat.lt_of_le_of_lt (readPart_length _hp) (afterDelimiter_length _ha)

/-- The first part of a form with a name. -/
def find (boundary name : String) (body : Bytes) : Except Fault (Option Part) :=
  match splitAt? (delimiter boundary) body with
  | none => .error .incompleteStream
  | some (_, input) => findFrom boundary name input

end TableStore.Http.Multipart
