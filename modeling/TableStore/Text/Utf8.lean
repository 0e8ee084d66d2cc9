/-!
# UTF-8

Octets and the characters they stand for. `encode` writes characters, `decode` reads them back or
says where the text stops being UTF-8: the index of the faulty sequence and, unless the text ends
inside it, how many octets of it can be read before no character is possible any more.
-/

namespace TableStore

/-- The contents of a file or a message. -/
abbrev Bytes := List UInt8

namespace Utf8

/-- Where a text stops being UTF-8. -/
structure Fault where
  /-- Octets before the faulty sequence. -/
  index : Nat
  /-- Octets of the faulty sequence; `none` if the text ends inside it. -/
  length : Option Nat
deriving DecidableEq, Repr

/-! ## Writing -/

/-- The octets of one character. -/
def encodeChar (c : Char) : Bytes :=
  let n := c.toNat
  if n < 0x80 then [UInt8.ofNat n]
  else if n < 0x800 then [UInt8.ofNat (0xC0 + n / 0x40), UInt8.ofNat (0x80 + n % 0x40)]
  else if n < 0x10000 then
    [UInt8.ofNat (0xE0 + n / 0x1000), UInt8.ofNat (0x80 + n / 0x40 % 0x40),
      UInt8.ofNat (0x80 + n % 0x40)]
  else
    [UInt8.ofNat (0xF0 + n / 0x40000), UInt8.ofNat (0x80 + n / 0x1000 % 0x40),
      UInt8.ofNat (0x80 + n / 0x40 % 0x40), UInt8.ofNat (0x80 + n % 0x40)]

def encodeChars (cs : List Char) : Bytes :=
  cs.flatMap encodeChar

def encode (s : String) : Bytes :=
  encodeChars s.toList

/-- How many octets a text takes. -/
def size (s : String) : Nat :=
  (encode s).length

/-! ## Reading -/

/-- What a non-empty text starts with. -/
inductive Head where
  /-- A character, followed by the rest of the text. -/
  | char (c : Char) (rest : Bytes)
  /-- No character; the length is that of a `Fault`. -/
  | fault (length : Option Nat)

/-- The bounds of the octet after a leading octet: they keep out overlong forms, surrogates and
values above the last character. -/
def secondBounds (lead : Nat) : Nat × Nat :=
  if lead = 0xE0 then (0xA0, 0xBF)
  else if lead = 0xED then (0x80, 0x9F)
  else if lead = 0xF0 then (0x90, 0xBF)
  else if lead = 0xF4 then (0x80, 0x8F)
  else (0x80, 0xBF)

/-- Whether an octet may follow the given leading octet. -/
def isSecond (lead : Nat) (b : UInt8) : Bool :=
  (secondBounds lead).1 ≤ b.toNat && b.toNat ≤ (secondBounds lead).2

def isTail (b : UInt8) : Bool :=
  0x80 ≤ b.toNat && b.toNat ≤ 0xBF

def payload (b : UInt8) : Nat :=
  b.toNat - 0x80

def headTwo (lead : Nat) : Bytes → Head
  | [] => .fault none
  | b₁ :: rest =>
    if isTail b₁ then .char (Char.ofNat ((lead - 0xC0) * 0x40 + payload b₁)) rest
    else .fault (some 1)

def headThree (lead : Nat) : Bytes → Head
  | [] => .fault none
  | [b₁] => if isSecond lead b₁ then .fault none else .fault (some 1)
  | b₁ :: b₂ :: rest =>
    if !isSecond lead b₁ then .fault (some 1)
    else if !isTail b₂ then .fault (some 2)
    else .char (Char.ofNat ((lead - 0xE0) * 0x1000 + payload b₁ * 0x40 + payload b₂)) rest

def headFour (lead : Nat) : Bytes → Head
  | [] => .fault none
  | [b₁] => if isSecond lead b₁ then .fault none else .fault (some 1)
  | [b₁, b₂] =>
    if !isSecond lead b₁ then .fault (some 1)
    else if isTail b₂ then .fault none else .fault (some 2)
  | b₁ :: b₂ :: b₃ :: rest =>
    if !isSecond lead b₁ then .fault (some 1)
    else if !isTail b₂ then .fault (some 2)
    else if !isTail b₃ then .fault (some 3)
    else
      .char (Char.ofNat ((lead - 0xF0) * 0x40000 + payload b₁ * 0x1000 + payload b₂ * 0x40
        + payload b₃)) rest

/-- The first character of the text `b :: rest`. -/
def head (b : UInt8) (rest : Bytes) : Head :=
  let lead := b.toNat
  if lead < 0x80 then .char (Char.ofNat lead) rest
  else if lead < 0xC2 then .fault (some 1)
  else if lead < 0xE0 then headTwo lead rest
  else if lead < 0xF0 then headThree lead rest
  else if lead < 0xF5 then headFour lead rest
  else .fault (some 1)

/-- A character takes at least one octet. -/
theorem head_length {b : UInt8} {rest : Bytes} {c : Char} {rest' : Bytes}
    (h : head b rest = .char c rest') : rest'.length ≤ rest.length := by
  unfold head headTwo headThree headFour at h
  grind

/-- A fault in a text that a character is put before. -/
def Fault.after (c : Char) (fault : Fault) : Fault :=
  { fault with index := (encodeChar c).length + fault.index }

/-- The characters of a text, or where it stops being UTF-8. -/
def decodeChars : Bytes → Except Fault (List Char)
  | [] => .ok []
  | b :: rest =>
    match _h : head b rest with
    | .fault length => .error ⟨0, length⟩
    | .char c rest =>
      match decodeChars rest with
      | .error fault => .error (fault.after c)
      | .ok cs => .ok (c :: cs)
termination_by bs => bs.length
decreasing_by simpa using Nat.lt_succ_of_le (head_length _h)

/-- The text that the octets stand for, or where they stop being UTF-8. -/
def decode (bs : Bytes) : Except Fault String :=
  String.ofList <$> decodeChars bs

def Fault.message (fault : Fault) : String :=
  match fault.length with
  | none => s!"incomplete utf-8 byte sequence from index {fault.index}"
  | some length => s!"invalid utf-8 sequence of {length} bytes from index {fault.index}"

end Utf8

end TableStore
