/-!
# Paths

A path is the texts between the slashes it is written with. Empty texts, `.` and `..` are kept:
what they mean depends on the directories that are there.
-/

namespace TableStore

/-- Splits at every separator; the pieces are one more than the separators. -/
def splitAll (separator : Char) : List Char → List (List Char)
  | [] => [[]]
  | c :: cs =>
    if c = separator then [] :: splitAll separator cs
    else
      match splitAll separator cs with
      | [] => [[c]]
      | piece :: pieces => (c :: piece) :: pieces

/-- A path from the root of the file system. -/
structure Path where
  parts : List String
deriving DecidableEq, Repr

namespace Path

def ofText (text : String) : Path :=
  ⟨(splitAll '/' text.toList).map String.ofList⟩

/-- Whether a path ends in a slash, as only the path of a directory may. -/
def endsInSlash (path : Path) : Bool :=
  path.parts.getLast? = some ""

/-- The path that a text spells inside a directory. A text that starts with a slash starts from the
root. -/
def join (directory : Path) (text : String) : Path :=
  if text.toList.head? = some '/' then ofText text
  else if directory.endsInSlash then ⟨directory.parts.dropLast ++ (ofText text).parts⟩
  else ⟨directory.parts ++ (ofText text).parts⟩

/-- Whether a part stays where it is. -/
def isIdle (part : String) : Bool :=
  part = "" || part = "."

/-- The parts that lead somewhere. -/
def solid (path : Path) : List String :=
  path.parts.filter (!isIdle ·)

/-- The parts without slashes at the end. -/
def trimmed (path : Path) : List String :=
  (path.parts.reverse.dropWhile (· = "")).reverse

/-- Whether a part holds a NUL, which no file name may. -/
def hasNul (path : Path) : Bool :=
  path.parts.any (·.toList.contains '\x00')

def text (path : Path) : String :=
  "/".intercalate path.parts

end Path

/-- The last part of a path text that names a file, if it does not lead upward. -/
def fileName? (text : String) : Option String :=
  match (Path.ofText text).solid.getLast? with
  | none => none
  | some name => if name = ".." then none else some name

/-- A file name up to its last dot. A dot that starts the name ends nothing. -/
def stem (name : String) : String :=
  let cs := name.toList
  let before := (cs.reverse.dropWhile (· ≠ '.')).drop 1
  if before.isEmpty then name else String.ofList before.reverse

end TableStore
