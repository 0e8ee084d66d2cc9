import TableStore.Text.Ascii
import TableStore.Text.Utf8

/-!
# Reading CSV

A text is records, a record is fields. A field is quoted if a quote starts it: commas and line ends
up to the closing quote belong to it, a doubled quote stands for one, and what follows the closing
quote is part of the field up to the next comma or line end. A line feed or a carriage return ends a
record, and lines without any octet hold none.

All records have as many fields as the first, and all fields are UTF-8; the first record at fault is
reported with the position at which reading it began.

How the text is cut into reads does not matter, except for a byte order mark: it is looked for in
the first read only.
-/

namespace TableStore.Csv

/-! ## Faults -/

/-- Where a record begins: right after the octet that ended the one before. -/
structure Position where
  /-- Records before it. -/
  record : Nat
  /-- One more than the line feeds before it. -/
  line : Nat
  /-- Octets before it. -/
  byte : Nat
deriving DecidableEq, Repr

/-- What is wrong with records. -/
inductive Fault where
  /-- A record has another number of fields than the first; one that is read has a position. -/
  | unequalLengths (position : Option Position) (expected found : Nat)
  /-- A field is not UTF-8 from some octet on. -/
  | invalidText (position : Position) (field index : Nat)
  /-- The source failed before its end. -/
  | broken
deriving DecidableEq, Repr

def unequalText (expected found : Nat) : String :=
  s!"found record with {found} fields, but the previous record has {expected} fields"

def Fault.message : Fault → String
  | .unequalLengths none expected found => "CSV error: " ++ unequalText expected found
  | .unequalLengths (some p) expected found =>
    s!"CSV error: record {p.record} (line: {p.line}, byte: {p.byte}): " ++
      unequalText expected found
  | .invalidText p field index =>
    s!"CSV parse error: record {p.record} (line {p.line}, field: {field}, byte: {p.byte}): " ++
      s!"invalid utf-8: invalid UTF-8 in field {field} near byte index {index}"
  | .broken => "closed"

/-! ## Fields -/

/-- How far a field is read. -/
inductive FieldState where
  /-- Nothing of it. -/
  | start
  /-- Octets that stand for themselves. -/
  | plain
  /-- Octets between quotes. -/
  | quoted
  /-- A quote that closes the field unless another one follows. -/
  | closing
deriving DecidableEq, Repr

/-- What was read of a record: the rest of the current field, the fields after it, the octets after
the record, and whether a line end closed it. -/
structure Scanned where
  field : Bytes
  more : List Bytes
  rest : Bytes
  closed : Bool
deriving DecidableEq, Repr

def isLineEnd (b : UInt8) : Bool :=
  b = Ascii.lineFeed || b = Ascii.carriageReturn

/-- Puts an octet before the rest of the current field. -/
def Scanned.push (b : UInt8) (s : Scanned) : Scanned :=
  { s with field := b :: s.field }

/-- Ends the current field before the fields that follow. -/
def Scanned.next (s : Scanned) : Scanned :=
  { s with field := [], more := s.field :: s.more }

/-- The rest of a record. -/
def scan (state : FieldState) : Bytes → Scanned
  | [] => ⟨[], [], [], false⟩
  | b :: rest =>
    if state = .quoted then
      if b = Ascii.quote then scan .closing rest else (scan .quoted rest).push b
    else if b = Ascii.quote ∧ state = .start then scan .quoted rest
    else if b = Ascii.quote ∧ state = .closing then (scan .quoted rest).push b
    else if b = Ascii.comma then (scan .start rest).next
    else if isLineEnd b then ⟨[], [], rest, true⟩
    else (scan .plain rest).push b

theorem scan_length (state : FieldState) (input : Bytes) :
    (scan state input).rest.length ≤ input.length := by
  induction input generalizing state with
  | nil => simp [scan]
  | cons b rest ih =>
    unfold scan Scanned.push Scanned.next
    repeat' split
    all_goals first | exact Nat.le_succ_of_le (ih _) | simp

/-- A record takes at least one octet, whatever that octet is. -/
theorem scan_start_length (b : UInt8) (rest : Bytes) :
    (scan .start (b :: rest)).rest.length < (b :: rest).length := by
  have h := fun state => Nat.lt_succ_of_le (scan_length state rest)
  unfold scan Scanned.push Scanned.next
  repeat' split
  all_goals first | exact h _ | simp_all

/-! ## Records -/

inductive RecordFault where
  | unequalLengths (expected found : Nat)
  | invalidText (field index : Nat)
deriving DecidableEq, Repr

/-- Why reading stops before the end. -/
inductive Stop where
  /-- At a record, with that many before it and these octets from its beginning on. -/
  | record (number : Nat) (left : Bytes) (fault : RecordFault)
  | broken
deriving DecidableEq, Repr

/-- The texts of the fields from index `i` on, or the first field that is not UTF-8. -/
def decodeFields (i : Nat) : List Bytes → Except RecordFault (List String)
  | [] => .ok []
  | field :: fields =>
    match Utf8.decode field with
    | .error fault => .error (.invalidText i fault.index)
    | .ok text =>
      match decodeFields (i + 1) fields with
      | .error fault => .error fault
      | .ok texts => .ok (text :: texts)

/-- A record of the expected width, if one is expected. The number of its fields is looked at
before their texts. -/
def checkRecord (width : Option Nat) (fields : List Bytes) : Except RecordFault (List String) :=
  match width with
  | none => decodeFields 0 fields
  | some expected =>
    if fields.length = expected then decodeFields 0 fields
    else .error (.unequalLengths expected fields.length)

/-- The mark that may start a UTF-8 text. -/
def byteOrderMark : Bytes := [0xEF, 0xBB, 0xBF]

/-- The octets where a record may begin, without those of a mark and without empty lines. -/
def recordStart (mark : Nat) (input : Bytes) : Bytes :=
  (input.drop mark).dropWhile isLineEnd

theorem recordStart_length_le (mark : Nat) (input : Bytes) :
    (recordStart mark input).length ≤ input.length :=
  ((List.dropWhile_sublist _).trans (List.drop_sublist mark input)).length_le

/-- The records from the one with a number on, after the octets of a mark. With `complete` unset the
source fails where the octets end, and a record that no line end closed is lost. -/
def readRecords (complete : Bool) (mark number : Nat) (width : Option Nat) (input : Bytes) :
    Except Stop (List (List String)) :=
  match _h : recordStart mark input with
  | [] => if complete then .ok [] else .error .broken
  | b :: tail =>
    let scanned := scan .start (b :: tail)
    if !scanned.closed && !complete then .error .broken
    else
      let fields := scanned.field :: scanned.more
      match checkRecord width fields with
      | .error fault => .error (.record number input fault)
      | .ok record =>
        match readRecords complete 0 (number + 1) (width.or (some fields.length)) scanned.rest with
        | .error stop => .error stop
        | .ok records => .ok (record :: records)
termination_by input.length
decreasing_by
  have h₁ := scan_start_length b tail
  have h₂ := recordStart_length_le mark input
  rw [_h] at h₂
  exact Nat.lt_of_lt_of_le h₁ h₂

/-- The position in a text where these octets of it are left. -/
def Position.ofLeft (text : Bytes) (number : Nat) (left : Bytes) : Position :=
  let before := text.take (text.length - left.length)
  ⟨number, 1 + before.count Ascii.lineFeed, before.length⟩

def Stop.fault (text : Bytes) : Stop → Fault
  | .record number left (.unequalLengths expected found) =>
    .unequalLengths (some (.ofLeft text number left)) expected found
  | .record number left (.invalidText field index) =>
    .invalidText (.ofLeft text number left) field index
  | .broken => .broken

/-! ## Sources -/

/-- What delivers a text, read by read. A read of nothing is the end, which stays the end. -/
structure Source where
  reads : List Bytes
  nonempty : [] ∉ reads
  /-- Whether it ends after the reads. Otherwise it fails there. -/
  complete : Bool
deriving DecidableEq

namespace Source

/-- A text that is delivered at once. -/
def ofText (text : Bytes) (complete : Bool) : Source :=
  if h : text = [] then ⟨[], by simp, complete⟩ else ⟨[text], by simpa using Ne.symm h, complete⟩

def text (source : Source) : Bytes :=
  source.reads.flatten

/-- What the first read delivers. -/
def first (source : Source) : Bytes :=
  source.reads.headD []

/-- The octets of the byte order mark, which is one only if the first read holds all of it. -/
def markSize (source : Source) : Nat :=
  if byteOrderMark.isPrefixOf source.first then byteOrderMark.length else 0

end Source

/-- The records that a source delivers. Where the first read is the mark and nothing else, nothing
is left of it, which is taken for the end of the source. -/
def readAll (source : Source) : Except Fault (List (List String)) :=
  if source.first = byteOrderMark then .ok []
  else
    match readRecords source.complete source.markSize 0 none source.text with
    | .error stop => .error (stop.fault source.text)
    | .ok records => .ok records

end TableStore.Csv
