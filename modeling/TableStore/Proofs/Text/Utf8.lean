import Mathlib
import TableStore.Text.Utf8

/-!
# UTF-8 is read back, in order

`decode` gives back every text that `encode` writes, whatever characters it has. The order of texts,
by which catalogs are kept, is the order of their octets: characters take their leading octets from
rising ranges, and no character's octets start those of another one.
-/

namespace TableStore.Utf8

/-! ### Characters -/

theorem char_valid (c : Char) : c.toNat < 0xD800 ∨ 0xDFFF < c.toNat ∧ c.toNat < 0x110000 :=
  c.valid

theorem toNat_octet {n : Nat} (h : n < 256) : (UInt8.ofNat n).toNat = n := by
  rw [UInt8.toNat_ofNat']
  exact Nat.mod_eq_of_lt h

theorem char_ofNat {c : Char} {n : Nat} (h : n = c.toNat) : Char.ofNat n = c :=
  (congrArg Char.ofNat h).trans (Char.ofNat_toNat c)

theorem isTail_octet {n : Nat} (h : n < 0x40) : isTail (UInt8.ofNat (0x80 + n)) = true := by
  rw [isTail, toNat_octet (by omega)]
  simp
  omega

theorem payload_octet {n : Nat} (h : n < 0x40) : payload (UInt8.ofNat (0x80 + n)) = n := by
  have hoctet := toNat_octet (show 0x80 + n < 256 by omega)
  unfold payload
  omega

theorem encodeChar_high {c : Char} (hc : 0x80 ≤ c.toNat) {b : UInt8} (hb : b ∈ encodeChar c) :
    0x80 ≤ b.toNat := by
  have hvalid := char_valid c
  simp only [encodeChar, if_neg (Nat.not_lt.2 hc)] at hb
  split_ifs at hb
  all_goals
    simp only [List.mem_cons, List.not_mem_nil, or_false] at hb
    rcases hb with rfl | rfl | rfl | rfl <;> rw [toNat_octet (by omega)] <;> omega

theorem headTwo_encode {c : Char} {rest : Bytes} (h₁ : 0x80 ≤ c.toNat) (h₂ : c.toNat < 0x800) :
    headTwo (0xC0 + c.toNat / 0x40) (UInt8.ofNat (0x80 + c.toNat % 0x40) :: rest)
      = .char c rest := by
  have hlast : c.toNat % 0x40 < 0x40 := Nat.mod_lt _ (by decide)
  have hvalue : (0xC0 + c.toNat / 0x40 - 0xC0) * 0x40 + c.toNat % 0x40 = c.toNat := by omega
  simp only [headTwo, isTail_octet hlast, payload_octet hlast, char_ofNat hvalue, if_true]

theorem headThree_encode {c : Char} {rest : Bytes} (h₁ : 0x800 ≤ c.toNat)
    (h₂ : c.toNat < 0x10000) :
    headThree (0xE0 + c.toNat / 0x1000)
      (UInt8.ofNat (0x80 + c.toNat / 0x40 % 0x40) :: UInt8.ofNat (0x80 + c.toNat % 0x40) :: rest)
      = .char c rest := by
  have hvalid := char_valid c
  have hmiddle : c.toNat / 0x40 % 0x40 < 0x40 := Nat.mod_lt _ (by decide)
  have hlast : c.toNat % 0x40 < 0x40 := Nat.mod_lt _ (by decide)
  have hsecond : isSecond (0xE0 + c.toNat / 0x1000)
      (UInt8.ofNat (0x80 + c.toNat / 0x40 % 0x40)) = true := by
    simp only [isSecond, secondBounds, toNat_octet (show 0x80 + c.toNat / 0x40 % 0x40 < 256 by omega)]
    split_ifs <;> simp <;> omega
  have hvalue : (0xE0 + c.toNat / 0x1000 - 0xE0) * 0x1000 + c.toNat / 0x40 % 0x40 * 0x40
      + c.toNat % 0x40 = c.toNat := by omega
  simp only [headThree, hsecond, isTail_octet hlast, payload_octet hmiddle, payload_octet hlast,
    char_ofNat hvalue, Bool.not_true, Bool.false_eq_true, if_false]

theorem headFour_encode {c : Char} {rest : Bytes} (h : 0x10000 ≤ c.toNat) :
    headFour (0xF0 + c.toNat / 0x40000)
      (UInt8.ofNat (0x80 + c.toNat / 0x1000 % 0x40) :: UInt8.ofNat (0x80 + c.toNat / 0x40 % 0x40)
        :: UInt8.ofNat (0x80 + c.toNat % 0x40) :: rest)
      = .char c rest := by
  have hvalid := char_valid c
  have hfirst : c.toNat / 0x1000 % 0x40 < 0x40 := Nat.mod_lt _ (by decide)
  have hmiddle : c.toNat / 0x40 % 0x40 < 0x40 := Nat.mod_lt _ (by decide)
  have hlast : c.toNat % 0x40 < 0x40 := Nat.mod_lt _ (by decide)
  have hsecond : isSecond (0xF0 + c.toNat / 0x40000)
      (UInt8.ofNat (0x80 + c.toNat / 0x1000 % 0x40)) = true := by
    simp only [isSecond, secondBounds,
      toNat_octet (show 0x80 + c.toNat / 0x1000 % 0x40 < 256 by omega)]
    split_ifs <;> simp <;> omega
  have hvalue : (0xF0 + c.toNat / 0x40000 - 0xF0) * 0x40000 + c.toNat / 0x1000 % 0x40 * 0x1000
      + c.toNat / 0x40 % 0x40 * 0x40 + c.toNat % 0x40 = c.toNat := by omega
  simp only [headFour, hsecond, isTail_octet hmiddle, isTail_octet hlast, payload_octet hfirst,
    payload_octet hmiddle, payload_octet hlast, char_ofNat hvalue, Bool.not_true,
    Bool.false_eq_true, if_false]

theorem head_encodeChar (c : Char) (rest : Bytes) :
    ∃ b tail, encodeChar c = b :: tail ∧ head b (tail ++ rest) = .char c rest := by
  have hvalid := char_valid c
  by_cases h₁ : c.toNat < 0x80
  · refine ⟨_, [], if_pos h₁, ?_⟩
    have hlead : (UInt8.ofNat c.toNat).toNat = c.toNat := toNat_octet (by omega)
    simp [head, hlead, h₁]
  by_cases h₂ : c.toNat < 0x800
  · refine ⟨_, _, by rw [encodeChar, if_neg h₁, if_pos h₂], ?_⟩
    have hlead : (UInt8.ofNat (0xC0 + c.toNat / 0x40)).toNat = 0xC0 + c.toNat / 0x40 :=
      toNat_octet (by omega)
    rw [head, hlead, if_neg (by omega), if_neg (by omega), if_pos (by omega)]
    exact headTwo_encode (by omega) h₂
  by_cases h₃ : c.toNat < 0x10000
  · refine ⟨_, _, by rw [encodeChar, if_neg h₁, if_neg h₂, if_pos h₃], ?_⟩
    have hlead : (UInt8.ofNat (0xE0 + c.toNat / 0x1000)).toNat = 0xE0 + c.toNat / 0x1000 :=
      toNat_octet (by omega)
    rw [head, hlead, if_neg (by omega), if_neg (by omega), if_neg (by omega), if_pos (by omega)]
    exact headThree_encode (by omega) h₃
  · refine ⟨_, _, by rw [encodeChar, if_neg h₁, if_neg h₂, if_neg h₃], ?_⟩
    have hlead : (UInt8.ofNat (0xF0 + c.toNat / 0x40000)).toNat = 0xF0 + c.toNat / 0x40000 :=
      toNat_octet (by omega)
    rw [head, hlead, if_neg (by omega), if_neg (by omega), if_neg (by omega), if_neg (by omega),
      if_pos (by omega)]
    exact headFour_encode (by omega)

/-! ### Texts -/

theorem decodeChars_encodeChars (cs : List Char) : decodeChars (encodeChars cs) = .ok cs := by
  induction cs with
  | nil => rw [encodeChars, List.flatMap_nil, decodeChars]
  | cons c cs ih =>
    obtain ⟨b, tail, hb, hhead⟩ := head_encodeChar c (encodeChars cs)
    rw [encodeChars, List.flatMap_cons, hb, List.cons_append, decodeChars]
    change head b (tail ++ List.flatMap encodeChar cs) = .char c (encodeChars cs) at hhead
    split
    · next hfault =>
      rw [hhead] at hfault
      simp at hfault
    · next c' rest' hchar =>
      rw [hhead] at hchar
      obtain ⟨rfl, rfl⟩ := Head.char.inj hchar
      rw [ih]

/-- **What is written is read back.** -/
theorem decode_encode (s : String) : decode (encode s) = .ok s := by
  rw [decode, encode, decodeChars_encodeChars]
  exact congrArg Except.ok String.ofList_toList

/-! ### Order -/

theorem octet_cons_lt_iff {m n : Nat} (hm : m < 256) (hn : n < 256) {as bs : Bytes} :
    UInt8.ofNat m :: as < UInt8.ofNat n :: bs ↔ m < n ∨ m = n ∧ as < bs := by
  rw [List.cons_lt_cons_iff, UInt8.lt_iff_toNat_lt, ← UInt8.toNat_inj, toNat_octet hm, toNat_octet hn]

/-- The octets of a smaller character come first, whatever follows them. -/
theorem encodeChar_lt_encodeChar {c d : Char} (h : c < d) (as bs : Bytes) :
    encodeChar c ++ as < encodeChar d ++ bs := by
  have hlt : c.toNat < d.toNat := h
  have hc := char_valid c
  have hd := char_valid d
  simp only [encodeChar]
  split_ifs
  all_goals
    simp (disch := omega) only [List.cons_append, List.nil_append, octet_cons_lt_iff]
    omega

theorem encodeChars_lt_encodeChars {cs ds : List Char} (h : cs < ds) :
    encodeChars cs < encodeChars ds := by
  induction h with
  | @nil d ds =>
    obtain ⟨b, tail, hb, -⟩ := head_encodeChar d []
    rw [encodeChars, encodeChars, List.flatMap_nil, List.flatMap_cons, hb]
    exact List.nil_lt_cons _ _
  | @cons c cs ds _ ih =>
    rw [encodeChars, encodeChars, List.flatMap_cons, List.flatMap_cons]
    exact List.append_left_lt ih
  | rel h => exact encodeChar_lt_encodeChar h _ _

/-- **The order of texts is the order of their octets.** -/
theorem encode_lt_encode {s t : String} : encode s < encode t ↔ s < t := by
  refine ⟨fun h => ?_, encodeChars_lt_encodeChars⟩
  rcases lt_trichotomy s t with hlt | rfl | hgt
  · exact hlt
  · exact absurd h (List.lt_irrefl _)
  · exact absurd h (List.lt_asymm (encodeChars_lt_encodeChars hgt))

end TableStore.Utf8
