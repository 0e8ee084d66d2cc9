import TableStore.Json.Fault

/-!
# JSON numbers

A number without fraction and exponent is whole as long as 64 bits hold it, and minus zero is a
double. Digits beyond the 64 bits of the significand only scale it; a double is the significand
times or divided by one power of ten.
-/

namespace TableStore.Json

def maxSignificand : Nat := 0xFFFFFFFFFFFFFFFF

/-- The largest exponent that is read digit by digit. -/
def maxExponent : Nat := 0x7FFFFFFF

/-- Appends digits to a significand as long as it stays in bounds: the result, and how many digits
were appended. -/
def appendDigits (n : Nat) : List UInt8 → Nat × Nat
  | [] => (n, 0)
  | d :: ds =>
    let next := n * 10 + Ascii.digitValue d
    if next ≤ maxSignificand then
      let (m, used) := appendDigits next ds
      (m, used + 1)
    else (n, 0)

def powerOfTen (k : Nat) : Float :=
  Float.ofScientific 1 false k

/-- A double times a power of ten, `none` if that is too large. -/
def scale (x : Float) (exponent : Int) : Option Float :=
  if exponent.natAbs ≤ 308 then
    if 0 ≤ exponent then
      let y := x * powerOfTen exponent.natAbs
      if y.isInf then none else some y
    else some (x / powerOfTen exponent.natAbs)
  else if x == 0 then some x
  else if 0 ≤ exponent then none
  else scale (x / powerOfTen 308) (exponent + 308)
termination_by exponent.natAbs

/-- The parts of a number read so far. -/
structure Parts where
  negative : Bool
  significand : Nat
  exponent : Int

/-- A double of either sign. -/
def Parts.signed (parts : Parts) (x : Float) : Number :=
  .double (if parts.negative then -x else x)

/-- The double with the given parts. -/
def Parts.double (parts : Parts) (rest : Bytes) : Except Fault (Number × Bytes) :=
  match scale (UInt64.ofNat parts.significand).toFloat parts.exponent with
  | none => stop .numberOutOfRange .ahead rest
  | some x => .ok (parts.signed x, rest)

/-- The number with the given parts if it has neither fraction nor exponent. -/
def Parts.whole (parts : Parts) (rest : Bytes) : Except Fault (Number × Bytes) :=
  if parts.exponent ≠ 0 then parts.double rest
  else if !parts.negative then .ok (.whole parts.significand, rest)
  else if parts.significand = 0 ∨ 0x8000000000000000 < parts.significand then parts.double rest
  else .ok (.whole (-parts.significand), rest)

/-! ## Exponents -/

def isExponentMark (b : UInt8) : Bool :=
  b = Ascii.ofChar 'e' || b = Ascii.ofChar 'E'

/-- The sign of an exponent, `true` if it is negative, and the octets after it. -/
def exponentSign : Bytes → Bool × Bytes
  | [] => (false, [])
  | b :: rest =>
    if b = Ascii.minus then (true, rest)
    else if b = Ascii.plus then (false, rest)
    else (false, b :: rest)

/-- The digits of an exponent, or the octets after the one that makes it too large. -/
def readPower (n : Nat) : Bytes → Except Bytes (Nat × Bytes)
  | [] => .ok (n, [])
  | b :: rest =>
    if Ascii.isDigit b then
      let next := n * 10 + Ascii.digitValue b
      if next ≤ maxExponent then readPower next rest else .error rest
    else .ok (n, b :: rest)

/-- A number whose exponent mark is already read. A huge exponent makes zero of a number unless it
is positive, and leaves zero as it is. -/
def Parts.readExponent (parts : Parts) (input : Bytes) : Except Fault (Number × Bytes) :=
  let (negative, input) := exponentSign input
  match input with
  | [] => stop .endInValue .last []
  | b :: rest =>
    if !Ascii.isDigit b then stop .invalidNumber .last rest
    else
      match readPower 0 (b :: rest) with
      | .ok (power, rest) =>
        let shift : Int := if negative then -power else power
        { parts with exponent := parts.exponent + shift }.double rest
      | .error rest =>
        if parts.significand ≠ 0 && !negative then stop .numberOutOfRange .last rest
        else .ok (parts.signed 0, rest.dropWhile Ascii.isDigit)

/-! ## Fractions -/

/-- A number whose decimal point is already read. -/
def Parts.readFraction (parts : Parts) (input : Bytes) : Except Fault (Number × Bytes) :=
  let digits := input.takeWhile Ascii.isDigit
  let rest := input.dropWhile Ascii.isDigit
  if digits.isEmpty then
    stop (if input.isEmpty then .endInValue else .invalidNumber) .next input
  else
    let (significand, used) := appendDigits parts.significand digits
    let parts := { parts with significand, exponent := parts.exponent - used }
    match rest with
    | b :: tail => if isExponentMark b then parts.readExponent tail else parts.double rest
    | [] => parts.double rest

/-- A number whose whole part is already read. -/
def Parts.readRest (parts : Parts) (input : Bytes) : Except Fault (Number × Bytes) :=
  match input with
  | [] => parts.whole []
  | b :: rest =>
    if b = Ascii.point then parts.readFraction rest
    else if isExponentMark b then parts.readExponent rest
    else parts.whole input

/-- A number whose minus sign, if it has one, is already read. Zero is the only whole part that
starts with a zero. -/
def readNumber (negative : Bool) (input : Bytes) : Except Fault (Number × Bytes) :=
  match input with
  | [] => stop .endInValue .last []
  | b :: rest =>
    if !Ascii.isDigit b then stop .invalidNumber .last rest
    else if b = Ascii.zero && rest.head?.any Ascii.isDigit then stop .invalidNumber .next rest
    else
      let digits := input.takeWhile Ascii.isDigit
      let (significand, used) := appendDigits 0 digits
      Parts.readRest ⟨negative, significand, digits.length - used⟩ (input.dropWhile Ascii.isDigit)

/-! ## Passing over numbers -/

/-- Passes over an exponent, if there is one. -/
def skipExponent (input : Bytes) : Except Fault Bytes :=
  match input with
  | [] => .ok []
  | b :: rest =>
    if isExponentMark b then
      match (exponentSign rest).2 with
      | [] => stop .invalidNumber .last []
      | c :: tail =>
        if Ascii.isDigit c then .ok (tail.dropWhile Ascii.isDigit)
        else stop .invalidNumber .last tail
    else .ok input

/-- Passes over a fraction, if there is one, and an exponent. -/
def skipFraction (input : Bytes) : Except Fault Bytes :=
  match input with
  | [] => .ok []
  | b :: rest =>
    if b = Ascii.point then
      if rest.head?.any Ascii.isDigit then skipExponent (rest.dropWhile Ascii.isDigit)
      else stop .invalidNumber .next rest
    else skipExponent input

/-- Passes over a number of any size whose minus sign, if it has one, is already read. -/
def skipNumber (input : Bytes) : Except Fault Bytes :=
  match input with
  | [] => stop .invalidNumber .last []
  | b :: rest =>
    if !Ascii.isDigit b then stop .invalidNumber .last rest
    else if b = Ascii.zero then
      if rest.head?.any Ascii.isDigit then stop .invalidNumber .next rest else skipFraction rest
    else skipFraction (rest.dropWhile Ascii.isDigit)

theorem length_dropDigits_le (input : Bytes) :
    (input.dropWhile Ascii.isDigit).length ≤ input.length :=
  (List.dropWhile_sublist _).length_le

theorem exponentSign_length (input : Bytes) : (exponentSign input).2.length ≤ input.length := by
  unfold exponentSign
  split
  · simp
  · split
    · simp
    · split <;> simp

theorem skipExponent_length {input rest : Bytes} (h : skipExponent input = .ok rest) :
    rest.length ≤ input.length := by
  unfold skipExponent stop at h
  split at h
  · simp_all
  · next b tail =>
    split at h
    · have hs := exponentSign_length tail
      split at h
      · simp at h
      · next c tail' he =>
        have := length_dropDigits_le tail'
        rw [he] at hs
        split at h
        · simp only [Except.ok.injEq] at h
          subst h
          simp only [List.length_cons] at hs ⊢
          omega
        · simp at h
    · simp_all

theorem skipFraction_length {input rest : Bytes} (h : skipFraction input = .ok rest) :
    rest.length ≤ input.length := by
  unfold skipFraction stop at h
  split at h
  · simp_all
  · next b tail =>
    split at h
    · split at h
      · have := skipExponent_length h
        have := length_dropDigits_le tail
        simp only [List.length_cons]
        omega
      · simp at h
    · exact skipExponent_length h

theorem skipNumber_length {input rest : Bytes} (h : skipNumber input = .ok rest) :
    rest.length < input.length := by
  unfold skipNumber stop at h
  split at h
  · simp at h
  · next b tail =>
    split at h
    · simp at h
    · split at h
      · split at h
        · simp at h
        · exact Nat.lt_succ_of_le (skipFraction_length h)
      · have := skipFraction_length h
        have := length_dropDigits_le tail
        simp only [List.length_cons]
        omega

end TableStore.Json
