import TableStore.Json.Skip

/-!
# Reading typed JSON

A reader takes one value of a known shape from the front of a text: a string, a list of like
values, or a record. A record is written as an object or as the list of its fields in order; in an
object, keys that name no field are passed over. Whatever a reader takes, it takes at least one
octet.
-/

namespace TableStore.Json

/-- Takes one value from the front of a text. -/
structure Reader (α : Type) where
  read : Bytes → Except Fault (α × Bytes)
  read_length : ∀ {input a rest}, read input = .ok (a, rest) → rest.length < input.length

/-- Changes what a reader gives. -/
def Reader.map {α β : Type} (f : α → β) (reader : Reader α) : Reader β where
  read input :=
    match reader.read input with
    | .error fault => .error fault
    | .ok (a, rest) => .ok (f a, rest)
  read_length h := by
    split at h
    · simp at h
    · next hr =>
      simp only [Except.ok.injEq, Prod.mk.injEq] at h
      exact h.2 ▸ reader.read_length hr

/-! ## Values of another kind -/

/-- What a number found is. -/
def foundNumber : Except Fault (Number × Bytes) → Except Fault (Found × Place × Bytes)
  | .error fault => .error fault
  | .ok (n, rest) => .ok (.number n, .ahead, rest)

/-- What letters found stand for. -/
def foundLetters (found : Found) : Except Fault Bytes → Except Fault (Found × Place × Bytes)
  | .error fault => .error fault
  | .ok rest => .ok (found, .last, rest)

/-- The value that the text `b :: rest` starts with, the place at which it is reported, and the
octets after it. Of lists and objects nothing is read. -/
def findValue (b : UInt8) (rest : Bytes) : Except Fault (Found × Place × Bytes) :=
  if b = Ascii.ofChar 'n' then foundLetters .null (readLetters ['u', 'l', 'l'] rest)
  else if b = Ascii.ofChar 't' then foundLetters (.boolean true) (readLetters ['r', 'u', 'e'] rest)
  else if b = Ascii.ofChar 'f' then
    foundLetters (.boolean false) (readLetters ['a', 'l', 's', 'e'] rest)
  else if b = Ascii.minus then foundNumber (readNumber true rest)
  else if Ascii.isDigit b then foundNumber (readNumber false (b :: rest))
  else if b = Ascii.quote then
    match readString rest with
    | .error fault => .error fault
    | .ok (s, rest) => .ok (.string s, .last, rest)
  else if b = Ascii.openBracket then .ok (.sequence, .ahead, b :: rest)
  else if b = Ascii.openBrace then .ok (.map, .ahead, b :: rest)
  else stop .expectedValue .next (b :: rest)

/-- Refuses the text `b :: rest`, where a value of another kind had to stand. -/
def refuse {α : Type} (expected : String) (b : UInt8) (rest : Bytes) : Except Fault α :=
  match findValue b rest with
  | .error fault => .error fault
  | .ok (found, place, rest) => stop (.invalidType found expected) place rest

theorem refuse_ne_ok {α : Type} (expected : String) (b : UInt8) (rest : Bytes) (a : α) :
    refuse expected b rest ≠ .ok a := by
  unfold refuse stop
  split <;> simp

/-! ## Strings -/

/-- Reads a string; `expected` is the word of messages for it. -/
def Reader.string (expected : String) : Reader String where
  read input :=
    match skipBlanks input with
    | [] => stop .endInValue .next []
    | b :: rest => if b = Ascii.quote then readString rest else refuse expected b rest
  read_length h := by
    simp only [stop] at h
    split at h
    · simp at h
    · next hb =>
      split at h
      · exact Nat.lt_trans (readString_length h) (skipBlanks_eq_cons_length hb)
      · exact absurd h (refuse_ne_ok _ _ _ _)

/-! ## Members -/

/-- How a list or an object goes on. -/
inductive Step where
  /-- With a member, which these octets hold. -/
  | member (rest : Bytes)
  /-- With its end, which these octets follow. -/
  | done (rest : Bytes)

/-- How a list goes on; after the first member, a comma comes before each. -/
def nextItem (first : Bool) (input : Bytes) : Except Fault Step :=
  match skipBlanks input with
  | [] => stop .endInList .next []
  | b :: rest =>
    if b = Ascii.closeBracket then .ok (.done rest)
    else if first then .ok (.member (b :: rest))
    else if b ≠ Ascii.comma then stop .expectedListEnd .next (b :: rest)
    else
      match skipBlanks rest with
      | [] => stop .endInValue .next []
      | c :: tail =>
        if c = Ascii.closeBracket then stop .trailingComma .next (c :: tail)
        else .ok (.member (c :: tail))

/-- How an object goes on; a member starts after the opening quote of its key. -/
def nextKey (first : Bool) (input : Bytes) : Except Fault Step :=
  match skipBlanks input with
  | [] => stop .endInObject .next []
  | b :: rest =>
    if b = Ascii.closeBrace then .ok (.done rest)
    else if first then
      if b = Ascii.quote then .ok (.member rest) else stop .keyNotString .next (b :: rest)
    else if b ≠ Ascii.comma then stop .expectedObjectEnd .next (b :: rest)
    else
      match skipBlanks rest with
      | [] => stop .endInValue .next []
      | c :: tail =>
        if c = Ascii.quote then .ok (.member tail)
        else if c = Ascii.closeBrace then stop .trailingComma .next (c :: tail)
        else stop .keyNotString .next (c :: tail)

theorem nextItem_member_length {first : Bool} {input rest : Bytes}
    (h : nextItem first input = .ok (.member rest)) : rest.length ≤ input.length := by
  unfold nextItem stop at h
  grind [→ skipBlanks_eq_cons_length]

theorem nextItem_done_length {first : Bool} {input rest : Bytes}
    (h : nextItem first input = .ok (.done rest)) : rest.length < input.length := by
  unfold nextItem stop at h
  grind [→ skipBlanks_eq_cons_length]

theorem nextKey_member_length {first : Bool} {input rest : Bytes}
    (h : nextKey first input = .ok (.member rest)) : rest.length < input.length := by
  unfold nextKey stop at h
  grind [→ skipBlanks_eq_cons_length]

theorem nextKey_done_length {first : Bool} {input rest : Bytes}
    (h : nextKey first input = .ok (.done rest)) : rest.length < input.length := by
  unfold nextKey stop at h
  grind [→ skipBlanks_eq_cons_length]

/-! ## Lists -/

/-- The members of a list whose bracket is already open. -/
def readItems {α : Type} (item : Reader α) (first : Bool) (input : Bytes) :
    Except Fault (List α × Bytes) :=
  match _h : nextItem first input with
  | .error fault => .error fault
  | .ok (.done rest) => .ok ([], rest)
  | .ok (.member rest) =>
    match _hi : item.read rest with
    | .error fault => .error fault
    | .ok (a, rest) =>
      match readItems item false rest with
      | .error fault => .error fault
      | .ok (as, rest) => .ok (a :: as, rest)
termination_by input.length
decreasing_by exact Nat.lt_of_lt_of_le (item.read_length _hi) (nextItem_member_length _h)

theorem readItems_length {α : Type} {item : Reader α} {first : Bool} {input rest : Bytes}
    {as : List α} (h : readItems item first input = .ok (as, rest)) :
    rest.length < input.length := by
  fun_induction readItems item first input generalizing as rest with grind
    [→ nextItem_member_length, → nextItem_done_length, → Reader.read_length]

def Reader.list {α : Type} (item : Reader α) : Reader (List α) where
  read input :=
    match skipBlanks input with
    | [] => stop .endInValue .next []
    | b :: rest =>
      if b = Ascii.openBracket then readItems item true rest else refuse "a sequence" b rest
  read_length h := by
    simp only [stop] at h
    split at h
    · simp at h
    · next hb =>
      split at h
      · exact Nat.lt_trans (readItems_length h) (skipBlanks_eq_cons_length hb)
      · exact absurd h (refuse_ne_ok _ _ _ _)

/-! ## Records -/

/-- A field of a record that is collected in `σ`. -/
structure Slot (σ : Type) where
  name : String
  filled : σ → Bool
  fill : σ → Reader σ

/-- How a record is read: its name in messages, its fields in order, the collection that holds
none of them, and the record a collection makes or the first field it lacks. -/
structure Record (σ α : Type) where
  name : String
  slots : List (Slot σ)
  empty : σ
  finish : σ → Except String α

namespace Record

variable {σ α : Type} (record : Record σ α)

/-- What a list that is too short should have been. -/
def expectedLength : String :=
  s!"struct {record.name} with {record.slots.length} element" ++
    if record.slots.length = 1 then "" else "s"

/-- The fields of a record written as a list whose bracket is already open; `index` of them are
read already. -/
def readSlots (index : Nat) (slots : List (Slot σ)) (collected : σ) (input : Bytes) :
    Except Fault (σ × Bytes) :=
  match slots with
  | [] => .ok (collected, input)
  | slot :: slots =>
    match nextItem (index = 0) input with
    | .error fault => .error fault
    | .ok (.done rest) => stop (.invalidLength index record.expectedLength) .last rest
    | .ok (.member rest) =>
      match (slot.fill collected).read rest with
      | .error fault => .error fault
      | .ok (collected, rest) => readSlots (index + 1) slots collected rest

/-- The end of a record written as a list. -/
def closeSlots (input : Bytes) : Except Fault Bytes :=
  match skipBlanks input with
  | [] => stop .endInList .next []
  | b :: rest =>
    if b = Ascii.closeBracket then .ok rest
    else if b = Ascii.comma then
      let rest := skipBlanks rest
      stop (if rest.head? = some Ascii.closeBracket then .trailingComma else .trailingCharacters)
        .next rest
    else stop .trailingCharacters .next (b :: rest)

/-- Refuses a key that was there before. What follows the key is looked at, and read if it ends
the object. -/
def refuseDuplicate (name : String) (input : Bytes) : Except Fault (σ × Bytes) :=
  match skipBlanks input with
  | [] => stop (.duplicateField name) .last []
  | b :: rest =>
    if b = Ascii.closeBrace then stop (.duplicateField name) .last rest
    else stop (.duplicateField name) .ahead (b :: rest)

/-- The value of a key that is already read. -/
def readMember (key : String) (collected : σ) (input : Bytes) : Except Fault (σ × Bytes) :=
  match record.slots.find? (·.name = key) with
  | some slot =>
    if slot.filled collected then refuseDuplicate key input
    else
      match readColon input with
      | .error fault => .error fault
      | .ok rest => (slot.fill collected).read rest
  | none =>
    match readColon input with
    | .error fault => .error fault
    | .ok rest =>
      match skipValue rest with
      | .error fault => .error fault
      | .ok rest => .ok (collected, rest)

theorem readMember_length {key : String} {collected collected' : σ} {input rest : Bytes}
    (h : record.readMember key collected input = .ok (collected', rest)) :
    rest.length < input.length := by
  unfold readMember refuseDuplicate stop at h
  grind [→ readColon_length, → skipValue_length, → Reader.read_length]

/-- The fields of a record written as an object whose brace is already open. -/
def readMembers (first : Bool) (collected : σ) (input : Bytes) : Except Fault (σ × Bytes) :=
  match _h : nextKey first input with
  | .error fault => .error fault
  | .ok (.done rest) => .ok (collected, rest)
  | .ok (.member rest) =>
    match _hk : readString rest with
    | .error fault => .error fault
    | .ok (key, rest) =>
      match _hm : record.readMember key collected rest with
      | .error fault => .error fault
      | .ok (collected, rest) => readMembers false collected rest
termination_by input.length
decreasing_by
  have := nextKey_member_length _h
  have := readString_length _hk
  have := record.readMember_length _hm
  omega

/-- The record made of what was collected. -/
def close (collected : σ) (rest : Bytes) : Except Fault (α × Bytes) :=
  match record.finish collected with
  | .error field => stop (.missingField field) .last rest
  | .ok a => .ok (a, rest)

/-- A record from the front of a text. -/
def read (input : Bytes) : Except Fault (α × Bytes) :=
  match skipBlanks input with
  | [] => stop .endInValue .next []
  | b :: rest =>
    if b = Ascii.openBracket then
      match record.readSlots 0 record.slots record.empty rest with
      | .error fault => .error fault
      | .ok (collected, rest) =>
        match closeSlots rest with
        | .error fault => .error fault
        | .ok rest => record.close collected rest
    else if b = Ascii.openBrace then
      match record.readMembers true record.empty rest with
      | .error fault => .error fault
      | .ok (collected, rest) => record.close collected rest
    else refuse s!"struct {record.name}" b rest

theorem readSlots_length {index : Nat} {slots : List (Slot σ)} {collected collected' : σ}
    {input rest : Bytes}
    (h : record.readSlots index slots collected input = .ok (collected', rest)) :
    rest.length ≤ input.length := by
  induction slots generalizing index collected input with
  | nil =>
    simp only [readSlots, Except.ok.injEq, Prod.mk.injEq] at h
    exact h.2 ▸ Nat.le_refl _
  | cons slot slots ih =>
    unfold readSlots stop at h
    grind [→ nextItem_member_length, → Reader.read_length]

theorem closeSlots_length {input rest : Bytes} (h : closeSlots input = .ok rest) :
    rest.length < input.length := by
  unfold closeSlots stop at h
  grind [→ skipBlanks_eq_cons_length]

theorem readMembers_length {first : Bool} {collected collected' : σ} {input rest : Bytes}
    (h : record.readMembers first collected input = .ok (collected', rest)) :
    rest.length < input.length := by
  fun_induction readMembers record first collected input with grind
    [→ nextKey_member_length, → nextKey_done_length, → readString_length, → readMember_length]

theorem close_eq_ok {collected : σ} {rest rest' : Bytes} {a : α}
    (h : record.close collected rest = .ok (a, rest')) : rest' = rest := by
  unfold close stop at h
  grind

theorem read_length {input rest : Bytes} {a : α} (h : record.read input = .ok (a, rest)) :
    rest.length < input.length := by
  unfold read stop at h
  grind [→ skipBlanks_eq_cons_length, → readSlots_length, → closeSlots_length,
    → readMembers_length, → close_eq_ok, refuse_ne_ok]

end Record

def Reader.record {σ α : Type} (record : Record σ α) : Reader α where
  read := record.read
  read_length := record.read_length

/-! ## Whole texts -/

/-- The value that a text holds; only blanks may follow it. -/
def Reader.readAll {α : Type} (reader : Reader α) (input : Bytes) : Except Fault α :=
  match reader.read input with
  | .error fault => .error fault
  | .ok (a, rest) =>
    match skipBlanks rest with
    | [] => .ok a
    | b :: rest => stop .trailingCharacters .next (b :: rest)

end TableStore.Json
