import TableStore.Json.Text
import TableStore.Proofs.Text.Utf8

/-!
# Written strings are read back

`readString` takes exactly the string that `writeString` writes, whatever follows it. Character by
character: an escape is read as the character it was written for, and the octets of every other
character are neither a quote nor a backslash nor a control.
-/

namespace TableStore.Json

/-! ### Putting octets before -/

theorem prepend_ok (front octets rest : Bytes) :
    prepend front (.ok (octets, rest)) = .ok (front ++ octets, rest) := rfl

theorem prepend_prepend (front middle : Bytes) (r : Except Fault (Bytes × Bytes)) :
    prepend front (prepend middle r) = prepend (front ++ middle) r := by
  cases r with
  | error fault => rfl
  | ok read => rw [prepend, prepend, prepend, List.append_assoc]

/-! ### Octets of a string -/

theorem readOctets_quote (rest : Bytes) : readOctets (Ascii.quote :: rest) = .ok ([], rest) := by
  rw [readOctets, if_pos rfl]

theorem readOctets_escape {c : Char} {input rest : Bytes} (h : readEscape input = .ok (c, rest)) :
    readOctets (Ascii.backslash :: input) = prepend (Utf8.encodeChar c) (readOctets rest) := by
  rw [readOctets, if_neg (by decide), if_pos rfl]
  split
  · next hfault => rw [h] at hfault; simp at hfault
  · next c' rest' hread =>
    rw [h] at hread
    obtain ⟨rfl, rfl⟩ := Prod.mk.inj (Except.ok.inj hread)
    rfl

/-- Octets that stand for themselves inside a string. -/
def IsPlain (b : UInt8) : Prop :=
  b ≠ Ascii.quote ∧ b ≠ Ascii.backslash ∧ 0x20 ≤ b.toNat

theorem readOctets_plain {front : Bytes} (h : ∀ b ∈ front, IsPlain b) (rest : Bytes) :
    readOctets (front ++ rest) = prepend front (readOctets rest) := by
  induction front with
  | nil =>
    rw [List.nil_append]
    cases readOctets rest <;> rfl
  | cons b front ih =>
    obtain ⟨hquote, hbackslash, hcontrol⟩ := h b (by simp)
    rw [List.cons_append, readOctets, if_neg hquote, if_neg hbackslash,
      if_neg (Nat.not_lt.2 hcontrol), ih (fun b' hb' => h b' (by simp [hb'])), prepend_prepend]
    rfl

/-! ### Characters -/

theorem hexValue_hexDigit {n : Nat} (h : n < 16) : Ascii.hexValue? (Ascii.hexDigit n) = some n := by
  interval_cases n <;> decide

theorem readEscape_control {c : Char} (h : c.toNat < 0x20) (rest : Bytes) :
    readEscape (Ascii.ofChar 'u' :: Ascii.zero :: Ascii.zero :: Ascii.hexDigit (c.toNat / 16)
      :: Ascii.hexDigit (c.toNat % 16) :: rest) = .ok (c, rest) := by
  have hzero : Ascii.hexValue? Ascii.zero = some 0 := by decide
  have hhigh := hexValue_hexDigit (show c.toNat / 16 < 16 by omega)
  have hlow := hexValue_hexDigit (show c.toNat % 16 < 16 by omega)
  have hvalue : ((0 * 16 + 0) * 16 + c.toNat / 16) * 16 + c.toNat % 16 = c.toNat := by omega
  have hhex : readHex (Ascii.zero :: Ascii.zero :: Ascii.hexDigit (c.toNat / 16)
      :: Ascii.hexDigit (c.toNat % 16) :: rest) = .ok (c.toNat, rest) := by
    simp only [readHex, hzero, hhigh, hlow, hvalue]
  have hsimple : simpleEscape? (Ascii.ofChar 'u') = none := by decide
  simp only [readEscape, hsimple, if_true, readUnicode, hhex]
  rw [if_neg (by omega), if_neg (by omega), Char.ofNat_toNat]

theorem isPlain_of_mem_encodeChar {c : Char} (hquote : c ≠ '"') (hbackslash : c ≠ '\\')
    (hcontrol : 0x20 ≤ c.toNat) {b : UInt8} (hb : b ∈ Utf8.encodeChar c) : IsPlain b := by
  by_cases hascii : c.toNat < 0x80
  · have hoctet : b.toNat = c.toNat := by
      rw [Utf8.encodeChar, if_pos hascii, List.mem_singleton] at hb
      rw [hb, Utf8.toNat_octet (by omega)]
    refine ⟨fun h => hquote ?_, fun h => hbackslash ?_, by omega⟩
    · rw [h] at hoctet
      exact Char.toNat_inj.1 hoctet.symm
    · rw [h] at hoctet
      exact Char.toNat_inj.1 hoctet.symm
  · have hhigh := Utf8.encodeChar_high (Nat.not_lt.1 hascii) hb
    refine ⟨fun h => ?_, fun h => ?_, by omega⟩
    · rw [h] at hhigh
      exact absurd hhigh (by decide)
    · rw [h] at hhigh
      exact absurd hhigh (by decide)

/-- A written character is read as its octets. -/
theorem readOctets_writeChar (c : Char) (rest : Bytes) :
    readOctets (writeChar c ++ rest) = prepend (Utf8.encodeChar c) (readOctets rest) := by
  have named {n : Nat} (hn : c.toNat = n) : Char.ofNat n = c := Utf8.char_ofNat hn.symm
  unfold writeChar
  split_ifs with hquote hbackslash hb ht hn hf hr hcontrol
  · exact hquote ▸ readOctets_escape rfl
  · exact hbackslash ▸ readOctets_escape rfl
  · exact readOctets_escape (by rw [← named hb]; rfl)
  · exact readOctets_escape (by rw [← named ht]; rfl)
  · exact readOctets_escape (by rw [← named hn]; rfl)
  · exact readOctets_escape (by rw [← named hf]; rfl)
  · exact readOctets_escape (by rw [← named hr]; rfl)
  · exact readOctets_escape (readEscape_control hcontrol rest)
  · exact readOctets_plain
      (fun b => isPlain_of_mem_encodeChar hquote hbackslash (Nat.not_lt.1 hcontrol)) rest

/-! ### Strings -/

theorem readOctets_writeChars (cs : List Char) (rest : Bytes) :
    readOctets (cs.flatMap writeChar ++ Ascii.quote :: rest) = .ok (Utf8.encodeChars cs, rest) := by
  induction cs with
  | nil => exact readOctets_quote rest
  | cons c cs ih =>
    rw [List.flatMap_cons, List.append_assoc, readOctets_writeChar, ih, prepend_ok]
    rfl

/-- **A written string is read back**, up to its closing quote. -/
theorem readString_writeString (s : String) (rest : Bytes) :
    readString (s.toList.flatMap writeChar ++ Ascii.quote :: rest) = .ok (s, rest) := by
  have hdecode : Utf8.decode (Utf8.encodeChars s.toList) = .ok s := Utf8.decode_encode s
  rw [readString, readOctets_writeChars]
  simp only [hdecode]

theorem writeString_injective : Function.Injective writeString := by
  intro s t h
  have hread := readString_writeString s []
  rw [show s.toList.flatMap writeChar ++ [Ascii.quote] = t.toList.flatMap writeChar ++ [Ascii.quote]
    from (List.cons.inj h).2, readString_writeString t []] at hread
  exact (Prod.mk.inj (Except.ok.inj hread)).1.symm

end TableStore.Json
