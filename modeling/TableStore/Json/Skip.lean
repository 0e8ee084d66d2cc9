import TableStore.Json.Number
import TableStore.Json.Text

/-!
# Passing over JSON values

The value of an unknown key has to be well formed, but nothing is kept of it: how deeply it is
nested does not matter, and neither does the size of its numbers.
-/

namespace TableStore.Json

def isBlank (b : UInt8) : Bool :=
  b = Ascii.space || b = Ascii.lineFeed || b = Ascii.tab || b = Ascii.carriageReturn

/-- The octets from the first one on that is no blank. -/
def skipBlanks (input : Bytes) : Bytes :=
  input.dropWhile isBlank

theorem skipBlanks_length_le (input : Bytes) : (skipBlanks input).length ≤ input.length :=
  (List.dropWhile_sublist _).length_le

theorem skipBlanks_eq_cons_length {input rest : Bytes} {b : UInt8}
    (h : skipBlanks input = b :: rest) : rest.length < input.length := by
  have := skipBlanks_length_le input
  rw [h] at this
  exact this

def readLetters : List Char → Bytes → Except Fault Bytes
  | [], input => .ok input
  | _ :: _, [] => stop .endInValue .last []
  | c :: cs, b :: rest =>
    if b = Ascii.ofChar c then readLetters cs rest else stop .expectedIdent .last rest

theorem readLetters_length {cs : List Char} {input rest : Bytes}
    (h : readLetters cs input = .ok rest) : rest.length ≤ input.length := by
  fun_induction readLetters cs input with
  | case1 => simp_all
  | case2 => simp [stop] at h
  | case3 _ _ _ ih => exact Nat.le_succ_of_le (ih h)
  | case4 => simp [stop] at h

/-- The colon between a key and its value. -/
def readColon (input : Bytes) : Except Fault Bytes :=
  match skipBlanks input with
  | [] => stop .endInObject .next []
  | b :: rest => if b = Ascii.colon then .ok rest else stop .expectedColon .next (b :: rest)

theorem readColon_length {input rest : Bytes} (h : readColon input = .ok rest) :
    rest.length < input.length := by
  unfold readColon stop at h
  split at h
  · simp at h
  · next hb =>
    split at h
    · simp only [Except.ok.injEq] at h
      exact h ▸ skipBlanks_eq_cons_length hb
    · simp at h

/-! ## Containers -/

/-- What holds other values. -/
inductive Container where
  | list
  | object
deriving DecidableEq, Repr

def Container.close : Container → UInt8
  | .list => Ascii.closeBracket
  | .object => Ascii.closeBrace

/-- What is wrong if the text ends inside a container. -/
def Container.atEnd : Container → Cause
  | .list => .endInList
  | .object => .endInObject

/-- What is wrong if a member is followed by neither a comma nor the end. -/
def Container.unseparated : Container → Cause
  | .list => .expectedListEnd
  | .object => .expectedObjectEnd

/-- Passes over what comes before a member's value: nothing in a list, the key in an object. -/
def Container.skipKey : Container → Bytes → Except Fault Bytes
  | .list, input => .ok input
  | .object, input =>
    match skipBlanks input with
    | [] => stop .endInObject .next []
    | b :: rest =>
      if b ≠ Ascii.quote then stop .keyNotString .next (b :: rest)
      else
        match skipString rest with
        | .error fault => .error fault
        | .ok rest => readColon rest

/-- Passes over the value that starts with the octet `b`, unless it is a container. -/
def skipScalar (b : UInt8) (rest : Bytes) : Except Fault Bytes :=
  if b = Ascii.ofChar 'n' then readLetters ['u', 'l', 'l'] rest
  else if b = Ascii.ofChar 't' then readLetters ['r', 'u', 'e'] rest
  else if b = Ascii.ofChar 'f' then readLetters ['a', 'l', 's', 'e'] rest
  else if b = Ascii.minus then skipNumber rest
  else if Ascii.isDigit b then skipNumber (b :: rest)
  else if b = Ascii.quote then skipString rest
  else stop .expectedValue .next (b :: rest)

theorem Container.skipKey_length {c : Container} {input rest : Bytes}
    (h : c.skipKey input = .ok rest) : rest.length ≤ input.length := by
  cases c with
  | list =>
    simp only [skipKey, Except.ok.injEq] at h
    exact h ▸ Nat.le_refl _
  | object =>
    simp only [skipKey, stop] at h
    split at h
    · simp at h
    · next hb =>
      split at h
      · simp at h
      · split at h
        · simp at h
        · next hs =>
          have := readColon_length h
          have := skipString_length hs
          have := skipBlanks_eq_cons_length hb
          omega

theorem skipScalar_length {b : UInt8} {rest rest' : Bytes} (h : skipScalar b rest = .ok rest') :
    rest'.length ≤ rest.length := by
  unfold skipScalar stop at h
  split at h
  · exact readLetters_length h
  split at h
  · exact readLetters_length h
  split at h
  · exact readLetters_length h
  split at h
  · exact Nat.le_of_lt (skipNumber_length h)
  split at h
  · exact Nat.le_of_lt_succ (skipNumber_length h)
  split at h
  · exact Nat.le_of_lt (skipString_length h)
  · simp at h

/-! ## Values -/

/-- What comes next inside the open containers. -/
inductive Phase where
  /-- A value. -/
  | value
  /-- The first member of the innermost container, or its end. -/
  | opened
  /-- A comma and another member of the innermost container, or its end. -/
  | closed

/-- Phases that read nothing come before the one that does. -/
def Phase.rank : Phase → Nat
  | .opened => 1
  | _ => 0

/-- Passes over the rest of a value, with the open containers from the innermost on. -/
def skip (phase : Phase) (stack : List Container) (input : Bytes) : Except Fault Bytes :=
  match phase, stack with
  | .value, stack =>
    match _h : skipBlanks input with
    | [] => stop .endInValue .next []
    | b :: rest =>
      if b = Ascii.openBracket then skip .opened (.list :: stack) rest
      else if b = Ascii.openBrace then skip .opened (.object :: stack) rest
      else
        match _hs : skipScalar b rest with
        | .error fault => .error fault
        | .ok rest' => skip .closed stack rest'
  | .opened, [] => .ok input
  | .opened, c :: stack =>
    match _h : skipBlanks input with
    | [] => stop c.atEnd .next []
    | b :: rest =>
      if b = c.close then skip .closed stack rest
      else
        match _hk : c.skipKey (b :: rest) with
        | .error fault => .error fault
        | .ok rest' => skip .value (c :: stack) rest'
  | .closed, [] => .ok input
  | .closed, c :: stack =>
    match _h : skipBlanks input with
    | [] => stop c.atEnd .next []
    | b :: rest =>
      if b = Ascii.comma then
        match _hk : c.skipKey rest with
        | .error fault => .error fault
        | .ok rest' => skip .value (c :: stack) rest'
      else if b = c.close then skip .closed stack rest
      else stop c.unseparated .next (b :: rest)
termination_by (input.length, phase.rank)
decreasing_by
  all_goals
    have hb := skipBlanks_eq_cons_length _h
    try have hs := skipScalar_length _hs
    try have hk := Container.skipKey_length _hk
    simp only [Prod.lex_def, Phase.rank, List.length_cons] at *
    omega

def skipValue (input : Bytes) : Except Fault Bytes :=
  skip .value [] input

theorem skip_length {phase : Phase} {stack : List Container} {input rest : Bytes}
    (h : skip phase stack input = .ok rest) : rest.length ≤ input.length := by
  fun_induction skip phase stack input with grind
    [stop, → skipBlanks_eq_cons_length, → skipScalar_length, → Container.skipKey_length]

theorem skipValue_length {input rest : Bytes} (h : skipValue input = .ok rest) :
    rest.length ≤ input.length :=
  skip_length h

end TableStore.Json
