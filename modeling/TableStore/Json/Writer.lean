import TableStore.Json.Text

/-!
# Writing JSON

Lists and objects from the texts of their members. The compact layout has no blanks; the indented
one puts every member on a line of its own, two spaces deeper than its container, and leaves an
empty container on one line.
-/

namespace TableStore.Json

/-- Texts with a separator between each two. -/
def separated (separator : Bytes) : List Bytes → Bytes
  | [] => []
  | [text] => text
  | text :: texts => text ++ separator ++ separated separator texts

/-! ## Compact -/

def writeList (items : List Bytes) : Bytes :=
  Ascii.openBracket :: separated [Ascii.comma] items ++ [Ascii.closeBracket]

def writeMember (member : String × Bytes) : Bytes :=
  writeString member.1 ++ Ascii.colon :: member.2

def writeObject (members : List (String × Bytes)) : Bytes :=
  Ascii.openBrace :: separated [Ascii.comma] (members.map writeMember) ++ [Ascii.closeBrace]

/-! ## Indented -/

/-- A line break and the indentation of a nesting depth. -/
def lineBreak (depth : Nat) : Bytes :=
  Ascii.lineFeed :: List.replicate (2 * depth) Ascii.space

/-- A container at a nesting depth, one member a line. -/
def writeLines (depth : Nat) (openMark closeMark : UInt8) (items : List Bytes) : Bytes :=
  if items.isEmpty then [openMark, closeMark]
  else
    openMark :: lineBreak (depth + 1)
      ++ separated (Ascii.comma :: lineBreak (depth + 1)) items
      ++ lineBreak depth ++ [closeMark]

def indentList (depth : Nat) (items : List Bytes) : Bytes :=
  writeLines depth Ascii.openBracket Ascii.closeBracket items

def indentMember (member : String × Bytes) : Bytes :=
  writeString member.1 ++ [Ascii.colon, Ascii.space] ++ member.2

def indentObject (depth : Nat) (members : List (String × Bytes)) : Bytes :=
  writeLines depth Ascii.openBrace Ascii.closeBrace (members.map indentMember)

end TableStore.Json
