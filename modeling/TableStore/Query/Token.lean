/-!
# Tokens of a query

A query is split into words, runs of blanks, and single characters. Splitting never fails: a
character that starts nothing known is a token of its own. The literals of the tokens, put
together, give the query back.
-/

namespace TableStore.Query

/-- What a token stands for. -/
inductive TokenKind where
  | illegal
  | eof
  | whitespace
  | comma
  | identifier
  | star
  | select
  | from
deriving DecidableEq, Repr

def TokenKind.text : TokenKind → String
  | .illegal => "ILLEGAL"
  | .eof => "EOF"
  | .whitespace => "WS"
  | .comma => ","
  | .identifier => "IDENT"
  | .star => "*"
  | .select => "SELECT"
  | .from => "FROM"

/-- A token and the characters it was read from; only the end of the query has none. -/
structure Token where
  kind : TokenKind
  literal : List Char
deriving DecidableEq, Repr

/-! ## Character classes -/

/-- Blanks separate words. A carriage return or a NUL is no blank. -/
def isBlank (c : Char) : Bool :=
  c = ' ' || c = '\t' || c = '\n'

/-- A word starts with an ASCII letter. -/
def isWordStart (c : Char) : Bool :=
  c.isAlpha

/-- A word goes on with ASCII letters, digits and underscores. -/
def isWordPart (c : Char) : Bool :=
  c.isAlphanum || c = '_'

/-- Keywords are recognised in any letter case; every other word is an identifier. -/
def wordKind (word : List Char) : TokenKind :=
  let upper := String.ofList (word.map Char.toUpper)
  if upper = "SELECT" then .select
  else if upper = "FROM" then .from
  else .identifier

/-- The kind of a character that is neither blank nor starts a word. -/
def symbolKind (c : Char) : TokenKind :=
  if c = '*' then .star
  else if c = ',' then .comma
  else .illegal

/-! ## Splitting -/

/-- The first token of a query and the characters after it. -/
def scan : List Char → Token × List Char
  | [] => (⟨.eof, []⟩, [])
  | c :: rest =>
    if isBlank c then (⟨.whitespace, c :: rest.takeWhile isBlank⟩, rest.dropWhile isBlank)
    else if isWordStart c then
      let word := c :: rest.takeWhile isWordPart
      (⟨wordKind word, word⟩, rest.dropWhile isWordPart)
    else (⟨symbolKind c, [c]⟩, rest)

/-- Every token but the end of the query takes at least one character. -/
theorem scan_length (c : Char) (rest : List Char) :
    (scan (c :: rest)).2.length < (c :: rest).length := by
  have drop_le (p : Char → Bool) : (rest.dropWhile p).length ≤ rest.length :=
    (List.dropWhile_sublist p).length_le
  simp only [scan]
  split
  · exact Nat.lt_succ_of_le (drop_le _)
  · split
    · exact Nat.lt_succ_of_le (drop_le _)
    · simp

/-- All tokens of a query; the last one is its end. -/
def tokenize : List Char → List Token
  | [] => [⟨.eof, []⟩]
  | c :: rest => (scan (c :: rest)).1 :: tokenize (scan (c :: rest)).2
termination_by query => query.length
decreasing_by exact scan_length c rest

/-- The first `n` tokens, the end of the query repeating, and the characters after them. -/
def scanTimes : Nat → List Char → List Token × List Char
  | 0, query => ([], query)
  | n + 1, query =>
    let (tokens, rest) := scanTimes n (scan query).2
    ((scan query).1 :: tokens, rest)

end TableStore.Query
