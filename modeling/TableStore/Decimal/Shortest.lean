/-!
# Shortest decimals

A double stands for every real number that rounds to it. Its shortest decimal is the one with the
fewest digits among those numbers and, of several, the nearest to the double itself.
-/

namespace TableStore.Decimal

/-- The number `digits * 10 ^ exponent`. -/
structure Scaled where
  digits : Nat
  exponent : Int
deriving DecidableEq, Repr

/-- A positive double, `significand * 2 ^ exponent`. The gap to the next smaller double is half the
gap to the next larger one if `halfBelow` is set. -/
structure Binary where
  significand : Nat
  exponent : Int
  halfBelow : Bool
deriving DecidableEq, Repr

/-- Two to the number of bits in a fraction. -/
def fractionSize : Nat := 0x10000000000000

def signBit : Nat := 0x8000000000000000

/-- The finite non-zero double with the given bits, its sign left out. -/
def Binary.ofBits (bits : Nat) : Binary :=
  let fraction := bits % fractionSize
  let biased : Nat := bits / fractionSize % 0x800
  if biased = 0 then ⟨fraction, -1074, false⟩
  else ⟨fractionSize + fraction, (biased : Int) - 1075, fraction = 0 && 1 < biased⟩

/-- A power of a base as a fraction: numerator and denominator. -/
def powerFraction (base : Nat) : Int → Nat × Nat
  | .ofNat n => (base.pow n, 1)
  | .negSucc n => (1, base.pow (n + 1))

/-- The value and the ends of the interval that rounds to it, in quarters of the last place, as
numerators over one denominator: below, value, above, denominator. -/
def Binary.interval (x : Binary) : Nat × Nat × Nat × Nat :=
  let (num, den) := powerFraction 2 x.exponent
  let low := 4 * x.significand - if x.halfBelow then 1 else 2
  (low * num, 4 * x.significand * num, (4 * x.significand + 2) * num, 4 * den)

/-- Whether a decimal rounds to the double. The ends of the interval do so if the significand is
even. -/
def Binary.admits (x : Binary) (d : Scaled) : Bool :=
  let (low, _, high, den) := x.interval
  let (num, den') := powerFraction 10 d.exponent
  let place := d.digits * num * den
  if x.significand % 2 = 0 then low * den' ≤ place && place ≤ high * den'
  else low * den' < place && place < high * den'

/-- The number of decimal digits of `n`, one for zero. -/
def digitCount (n : Nat) : Nat :=
  (Nat.toDigits 10 n).length

/-- The exponent `e` with `10 ^ e ≤ num / den < 10 ^ (e + 1)`, for positive `num` and `den`. -/
def magnitude (num den : Nat) : Int :=
  let guess : Int := (digitCount num : Int) - digitCount den
  let (pnum, pden) := powerFraction 10 guess
  if num * pden < pnum * den then guess - 1 else guess

/-- The decimal with `n` digits next to the double among those that round to it, a tie going to the
even one. -/
def Binary.withDigits? (x : Binary) (n : Nat) : Option Scaled :=
  let (_, value, _, den) := x.interval
  let exponent := magnitude value den - (n - 1)
  let (pnum, pden) := powerFraction 10 exponent
  let top := value * pden
  let bottom := den * pnum
  let below := top / bottom
  let remainder := 2 * (top % bottom)
  let candidates :=
    if remainder < bottom || (remainder = bottom && below % 2 = 0) then [below, below + 1]
    else [below + 1, below]
  (candidates.map (⟨·, exponent⟩)).find? x.admits

/-- The same number with one digit fewer if the last one is a zero. -/
def Scaled.trim (d : Scaled) : Scaled :=
  if d.digits % 10 = 0 then ⟨d.digits / 10, d.exponent + 1⟩ else d

/-- The shortest decimal of a positive double. Seventeen digits always suffice. Only the single
digit nine can be rounded up to a number that ends in a zero. -/
def Binary.shortest (x : Binary) : Scaled :=
  (((List.range 17).findSome? fun n => x.withDigits? (n + 1)).getD ⟨x.significand, 0⟩).trim

/-! ## Text -/

/-- How a decimal is written: the lowest and the highest power of ten that are written
positionally. -/
structure Format where
  lowest : Int
  highest : Int

/-- The text of a decimal: positional with at least one digit on both sides of the point, or one
digit before the point and an exponent with its sign. -/
def Format.text (format : Format) (d : Scaled) : List Char :=
  let digits := Nat.toDigits 10 d.digits
  let power := d.exponent + digits.length - 1
  if power < format.lowest ∨ format.highest < power then
    let fraction := if digits.length = 1 then [] else '.' :: digits.drop 1
    digits.take 1 ++ fraction ++ ['e', if power < 0 then '-' else '+']
      ++ Nat.toDigits 10 power.natAbs
  else if power < 0 then
    ['0', '.'] ++ List.replicate (power.natAbs - 1) '0' ++ digits
  else
    let whole := power.toNat + 1
    let zeros := List.replicate (whole - digits.length) '0'
    let fraction := if digits.length ≤ whole then ['0'] else digits.drop whole
    digits.take whole ++ zeros ++ ['.'] ++ fraction

def Format.float (format : Format) (x : Float) : String :=
  let bits := x.toBits.toNat
  let sign := if signBit ≤ bits then ['-'] else []
  let magnitude := bits % signBit
  String.ofList (sign ++
    if magnitude = 0 then ['0', '.', '0'] else format.text (Binary.ofBits magnitude).shortest)

end TableStore.Decimal
