import TableStore.Json.Fault

/-!
# JSON strings

A string is its characters between quotes, with quotes, backslashes and controls escaped.
`writeString` writes one, `readString` reads one whose opening quote is already read, and
`skipString` passes over one without building its text.
-/

namespace TableStore.Json

/-! ## Writing -/

/-- A character inside a string. Only what has to be escaped is escaped. -/
def writeChar (c : Char) : Bytes :=
  if c = '"' then [Ascii.backslash, Ascii.quote]
  else if c = '\\' then [Ascii.backslash, Ascii.backslash]
  else if c.toNat = 0x08 then [Ascii.backslash, Ascii.ofChar 'b']
  else if c.toNat = 0x09 then [Ascii.backslash, Ascii.ofChar 't']
  else if c.toNat = 0x0A then [Ascii.backslash, Ascii.ofChar 'n']
  else if c.toNat = 0x0C then [Ascii.backslash, Ascii.ofChar 'f']
  else if c.toNat = 0x0D then [Ascii.backslash, Ascii.ofChar 'r']
  else if c.toNat < 0x20 then
    [Ascii.backslash, Ascii.ofChar 'u', Ascii.zero, Ascii.zero,
      Ascii.hexDigit (c.toNat / 16), Ascii.hexDigit (c.toNat % 16)]
  else Utf8.encodeChar c

def writeString (s : String) : Bytes :=
  Ascii.quote :: s.toList.flatMap writeChar ++ [Ascii.quote]

/-! ## Escapes -/

def readHex : Bytes → Except Fault (Nat × Bytes)
  | a :: b :: c :: d :: rest =>
    match Ascii.hexValue? a, Ascii.hexValue? b, Ascii.hexValue? c, Ascii.hexValue? d with
    | some a, some b, some c, some d => .ok (((a * 16 + b) * 16 + c) * 16 + d, rest)
    | _, _, _, _ => stop .invalidEscape .last rest
  | _ => stop .endInString .last []

/-- The `\u` escape that has to follow a leading surrogate. -/
def readPair : Bytes → Except Fault (Nat × Bytes)
  | [] => stop .endInString .last []
  | [b] =>
    if b = Ascii.backslash then stop .endInString .last [] else stop .unexpectedEndOfHex .last []
  | b :: c :: rest =>
    if b ≠ Ascii.backslash then stop .unexpectedEndOfHex .last (c :: rest)
    else if c ≠ Ascii.ofChar 'u' then stop .unexpectedEndOfHex .last rest
    else readHex rest

/-- The character of a `\u` escape. Characters beyond the first 65536 are two escapes, one for each
surrogate. -/
def readUnicode (input : Bytes) : Except Fault (Char × Bytes) :=
  match readHex input with
  | .error fault => .error fault
  | .ok (n, rest) =>
    if 0xDC00 ≤ n ∧ n ≤ 0xDFFF then stop .loneSurrogate .last rest
    else if 0xD800 ≤ n ∧ n ≤ 0xDBFF then
      match readPair rest with
      | .error fault => .error fault
      | .ok (m, rest) =>
        if 0xDC00 ≤ m ∧ m ≤ 0xDFFF then
          .ok (Char.ofNat (0x10000 + (n - 0xD800) * 0x400 + (m - 0xDC00)), rest)
        else stop .loneSurrogate .last rest
    else .ok (Char.ofNat n, rest)

/-- The character that a letter after a backslash stands for. -/
def simpleEscape? (b : UInt8) : Option Char :=
  if b = Ascii.quote then some '"'
  else if b = Ascii.backslash then some '\\'
  else if b = Ascii.slash then some '/'
  else if b = Ascii.ofChar 'b' then some (Char.ofNat 0x08)
  else if b = Ascii.ofChar 'f' then some (Char.ofNat 0x0C)
  else if b = Ascii.ofChar 'n' then some '\n'
  else if b = Ascii.ofChar 'r' then some '\r'
  else if b = Ascii.ofChar 't' then some '\t'
  else none

/-- The character of an escape whose backslash is already read. -/
def readEscape : Bytes → Except Fault (Char × Bytes)
  | [] => stop .endInString .last []
  | b :: rest =>
    match simpleEscape? b with
    | some c => .ok (c, rest)
    | none => if b = Ascii.ofChar 'u' then readUnicode rest else stop .invalidEscape .last rest

/-- Passes over an escape whose backslash is already read. Surrogates need not be paired. -/
def skipEscape : Bytes → Except Fault Bytes
  | [] => stop .endInString .last []
  | b :: rest =>
    match simpleEscape? b with
    | some _ => .ok rest
    | none =>
      if b = Ascii.ofChar 'u' then
        match readHex rest with
        | .error fault => .error fault
        | .ok (_, rest) => .ok rest
      else stop .invalidEscape .last rest

theorem readHex_length {input rest : Bytes} {n : Nat} (h : readHex input = .ok (n, rest)) :
    rest.length < input.length := by
  unfold readHex stop at h
  split at h
  · split at h
    · simp_all
      omega
    · simp at h
  · simp at h

theorem readPair_length {input rest : Bytes} {n : Nat} (h : readPair input = .ok (n, rest)) :
    rest.length < input.length := by
  unfold readPair stop at h
  split at h
  · simp at h
  · split at h <;> simp at h
  · split at h
    · simp at h
    · split at h
      · simp at h
      · have := readHex_length h
        simp only [List.length_cons]
        omega

theorem readUnicode_length {input rest : Bytes} {c : Char} (h : readUnicode input = .ok (c, rest)) :
    rest.length < input.length := by
  unfold readUnicode stop at h
  split at h
  · simp at h
  · next hn =>
    have := readHex_length hn
    split at h
    · simp at h
    · split at h
      · split at h
        · simp at h
        · next hm =>
          have := readPair_length hm
          split at h
          · simp_all
            omega
          · simp at h
      · simp_all

theorem readEscape_length {input rest : Bytes} {c : Char} (h : readEscape input = .ok (c, rest)) :
    rest.length < input.length := by
  unfold readEscape stop at h
  split at h
  · simp at h
  · split at h
    · simp_all
    · split at h
      · exact Nat.lt_succ_of_lt (readUnicode_length h)
      · simp at h

theorem skipEscape_length {input rest : Bytes} (h : skipEscape input = .ok rest) :
    rest.length < input.length := by
  unfold skipEscape stop at h
  split at h
  · simp at h
  · split at h
    · simp_all
    · split at h
      · split at h
        · simp at h
        · next hn =>
          simp only [Except.ok.injEq] at h
          exact h ▸ Nat.lt_succ_of_lt (readHex_length hn)
      · simp at h

/-! ## Reading -/

/-- Puts octets before of those read. -/
def prepend (front : Bytes) : Except Fault (Bytes × Bytes) → Except Fault (Bytes × Bytes)
  | .error fault => .error fault
  | .ok (octets, rest) => .ok (front ++ octets, rest)

/-- The octets of a string up to its closing quote, escapes replaced by the characters they stand
for, and the octets after the quote. -/
def readOctets : Bytes → Except Fault (Bytes × Bytes)
  | [] => stop .endInString .last []
  | b :: rest =>
    if b = Ascii.quote then .ok ([], rest)
    else if b = Ascii.backslash then
      match _h : readEscape rest with
      | .error fault => .error fault
      | .ok (c, rest) => prepend (Utf8.encodeChar c) (readOctets rest)
    else if b.toNat < 0x20 then stop .controlCharacter .last rest
    else prepend [b] (readOctets rest)
termination_by input => input.length
decreasing_by
  · exact Nat.lt_succ_of_lt (readEscape_length _h)
  · exact Nat.lt_succ_self _

/-- A string whose opening quote is already read. That it is UTF-8 is checked once its end is
found. The fault is reported as many octets before the end as the string has from its first faulty
octet on, an escape counting as the octets of its character. -/
def readString (input : Bytes) : Except Fault (String × Bytes) :=
  match readOctets input with
  | .error fault => .error fault
  | .ok (octets, rest) =>
    match Utf8.decode octets with
    | .ok s => .ok (s, rest)
    | .error fault =>
      .error ⟨.invalidUnicode, .last, rest.length + (octets.length - fault.index)⟩

theorem prepend_eq_ok {front octets rest : Bytes} {r : Except Fault (Bytes × Bytes)}
    (h : prepend front r = .ok (octets, rest)) :
    ∃ tail, r = .ok (tail, rest) ∧ octets = front ++ tail := by
  unfold prepend at h
  split at h
  · simp at h
  · simp only [Except.ok.injEq, Prod.mk.injEq] at h
    exact ⟨_, by rw [h.2], h.1.symm⟩

theorem readOctets_length {input octets rest : Bytes} (h : readOctets input = .ok (octets, rest)) :
    rest.length < input.length := by
  fun_induction readOctets input generalizing octets rest with
  | case1 => simp [stop] at h
  | case2 => simp_all
  | case3 => simp at h
  | case4 =>
    rename_i he _ ih
    obtain ⟨_, h, -⟩ := prepend_eq_ok h
    have := readEscape_length he
    have := ih h
    simp only [List.length_cons]
    omega
  | case5 => simp [stop] at h
  | case6 _ _ _ _ _ ih =>
    obtain ⟨_, h, -⟩ := prepend_eq_ok h
    exact Nat.lt_succ_of_lt (ih h)

theorem readString_length {input rest : Bytes} {s : String} (h : readString input = .ok (s, rest)) :
    rest.length < input.length := by
  unfold readString at h
  split at h
  · simp at h
  · next ho =>
    split at h
    · simp only [Except.ok.injEq, Prod.mk.injEq] at h
      exact h.2 ▸ readOctets_length ho
    · simp at h

/-- The octets after a string whose opening quote is already read. Its characters may be anything
but unescaped controls, which are not read. -/
def skipString : Bytes → Except Fault Bytes
  | [] => stop .endInString .last []
  | b :: rest =>
    if b = Ascii.quote then .ok rest
    else if b = Ascii.backslash then
      match _h : skipEscape rest with
      | .error fault => .error fault
      | .ok rest' => skipString rest'
    else if b.toNat < 0x20 then stop .controlCharacter .last (b :: rest)
    else skipString rest
termination_by input => input.length
decreasing_by
  · exact Nat.lt_succ_of_lt (skipEscape_length _h)
  · exact Nat.lt_succ_self _

theorem skipString_length {input rest : Bytes} (h : skipString input = .ok rest) :
    rest.length < input.length := by
  fun_induction skipString input with
  | case1 => simp [stop] at h
  | case2 => simp_all
  | case3 => simp at h
  | case4 =>
    rename_i he _ ih
    have := skipEscape_length he
    have := ih h
    simp only [List.length_cons]
    omega
  | case5 => simp [stop] at h
  | case6 _ _ _ _ _ ih => exact Nat.lt_succ_of_lt (ih h)

end TableStore.Json
