import TableStore.Csv.Reader

/-!
# Writing CSV

Every record ends with a line feed. A field is quoted only if it holds a comma, a quote or a line
end, and a record without any octet is written as an empty quoted field, since an empty line would
be no record. Records of different lengths are no table and cannot be written.
-/

namespace TableStore.Csv

def needsQuotes (b : UInt8) : Bool :=
  b = Ascii.comma || b = Ascii.quote || b = Ascii.lineFeed || b = Ascii.carriageReturn

def doubleQuotes : Bytes → Bytes
  | [] => []
  | b :: rest =>
    if b = Ascii.quote then b :: b :: doubleQuotes rest else b :: doubleQuotes rest

/-- A field, quoted if need be. -/
def writeField (text : String) : Bytes :=
  let field := Utf8.encode text
  if field.any needsQuotes then Ascii.quote :: doubleQuotes field ++ [Ascii.quote] else field

def joinFields : List Bytes → Bytes
  | [] => []
  | [field] => field
  | field :: fields => field ++ Ascii.comma :: joinFields fields

/-- A record and its line feed. -/
def writeRecord (record : List String) : Bytes :=
  let line := joinFields (record.map writeField)
  (if line.isEmpty then [Ascii.quote, Ascii.quote] else line) ++ [Ascii.lineFeed]

/-- Records one after the other, each with the given number of fields. -/
def writeRecords (width : Nat) : List (List String) → Except Fault Bytes
  | [] => .ok []
  | record :: records =>
    if record.length = width then
      match writeRecords width records with
      | .error fault => .error fault
      | .ok text => .ok (writeRecord record ++ text)
    else .error (.unequalLengths none width record.length)

/-- A text of records, all as long as the first. -/
def writeAll (records : List (List String)) : Except Fault Bytes :=
  writeRecords (records.head?.getD []).length records

end TableStore.Csv
