import TableStore.Query.Statement
import TableStore.Query.Token
import TableStore.Text.Quoted

/-!
# Reading statements

A statement is `SELECT`, fields separated by commas, `FROM` and a table name; blanks between them
do not matter. A parser keeps the characters not yet read and at most one token that was read too
far. It reads a statement up to its table name and no further, and stops right after the first
token that no statement can go on with, so it can be asked again for what follows.
-/

namespace TableStore.Query

/-- What a statement needs next. -/
inductive Expected where
  | select
  | field
  | from
  | tableName
deriving DecidableEq, Repr

def Expected.text : Expected → String
  | .select => "SELECT"
  | .field => "field"
  | .from => "FROM"
  | .tableName => "table name"

/-- A token that no statement can go on with. -/
structure SyntaxError where
  found : String
  expected : Expected
deriving DecidableEq, Repr

def SyntaxError.message (e : SyntaxError) : String :=
  s!"found {Text.quoted e.found}, expected {e.expected.text}"

/-- The characters not yet read, and a token handed back. -/
structure Parser where
  input : List Char
  pending : Option Token
deriving Repr

namespace Parser

def ofQuery (query : String) : Parser :=
  ⟨query.toList, none⟩

/-! ## Tokens -/

/-- The token handed back, else the next one of the query. -/
def next (p : Parser) : Token × Parser :=
  match p.pending with
  | some token => (token, { p with pending := none })
  | none => ((scan p.input).1, { p with input := (scan p.input).2 })

/-- The next token that is not blank. Two runs of blanks never follow each other, so at most one
is passed over. -/
def nextSolid (p : Parser) : Token × Parser :=
  if p.next.1.kind = .whitespace then p.next.2.next else p.next

def unread (p : Parser) (token : Token) : Parser :=
  { p with pending := some token }

/-- Bounds the tokens still to come. -/
def size (p : Parser) : Nat :=
  p.input.length + if p.pending.isSome then 1 else 0

/-- Reading a token leaves fewer, except at the end of the query. -/
theorem size_next (p : Parser) :
    p.next.2.size ≤ p.size ∧ (p.next.1.kind ≠ .eof → p.next.2.size < p.size) := by
  obtain ⟨input, pending⟩ := p
  cases pending with
  | some token => simp [next, size]
  | none =>
    cases input with
    | nil => simp [next, size, scan]
    | cons c rest =>
      have := scan_length c rest
      simp only [next, size, Option.isSome_none, Bool.false_eq_true, if_false]
      omega

/-- The same when a run of blanks is passed over. -/
theorem size_nextSolid (p : Parser) :
    p.nextSolid.2.size ≤ p.size ∧ (p.nextSolid.1.kind ≠ .eof → p.nextSolid.2.size < p.size) := by
  have h₁ := size_next p
  have h₂ := size_next p.next.2
  unfold nextSolid
  split
  · exact ⟨by omega, fun h => by have := h₂.2 h; omega⟩
  · exact h₁

/-! ## Statements -/

/-- Whether a token names a field. -/
def isField (token : Token) : Bool :=
  token.kind = .identifier || token.kind = .star

/-- The literal of the next token, which has to be of the given kind. -/
def expect (p : Parser) (kind : TokenKind) (expected : Expected) :
    Except SyntaxError String × Parser :=
  let (token, p) := p.nextSolid
  let literal := String.ofList token.literal
  if token.kind = kind then (.ok literal, p) else (.error ⟨literal, expected⟩, p)

/-- One field or more, separated by commas. The token after the last one is handed back. -/
def fields (p : Parser) : Except SyntaxError (List Field) × Parser :=
  let field := p.nextSolid.1
  let comma := p.nextSolid.2.nextSolid.1
  let p₂ := p.nextSolid.2.nextSolid.2
  if isField field then
    if _hc : comma.kind = .comma then
      let (more, q) := fields p₂
      (more.map (⟨String.ofList field.literal⟩ :: ·), q)
    else (.ok [⟨String.ofList field.literal⟩], p₂.unread comma)
  else (.error ⟨String.ofList field.literal, .field⟩, p.nextSolid.2)
termination_by p.size
decreasing_by
  have hne : comma.kind ≠ .eof := by rw [_hc]; decide
  have h₁ := (size_nextSolid p).1
  have h₂ := (size_nextSolid p.nextSolid.2).2 hne
  exact Nat.lt_of_lt_of_le h₂ h₁

/-- Reads one statement. -/
def parse (p : Parser) : Except SyntaxError Statement × Parser :=
  match p.expect .select .select with
  | (.error e, p) => (.error e, p)
  | (.ok _, p) =>
    match p.fields with
    | (.error e, p) => (.error e, p)
    | (.ok fields, p) =>
      match p.expect .from .from with
      | (.error e, p) => (.error e, p)
      | (.ok _, p) =>
        match p.expect .identifier .tableName with
        | (.error e, p) => (.error e, p)
        | (.ok source, p) => (.ok ⟨fields, source⟩, p)

/-- Reads `n` statements one after the other, going on after an error where it was found. -/
def parseTimes : Nat → Parser → List (Except SyntaxError Statement)
  | 0, _ => []
  | n + 1, p => p.parse.1 :: parseTimes n p.parse.2

end Parser

/-- Reads the first statement of a query. -/
def parse (query : String) : Except SyntaxError Statement :=
  (Parser.ofQuery query).parse.1

end TableStore.Query
