import TableStore.Proofs.Json.Reader

/-!
# Reading is local

What is read from the front of a text does not depend on what comes behind it: put more octets at
the end, and the same value is read and the same octets are left, with the new ones after them.
Hence no text that is taken as a whole can lose its end and still be read. Only numbers need to see
the octet after them; wherever one is passed over, the container it is in goes on behind it.
-/

namespace TableStore.Json

/-! ### Blanks and letters -/

theorem dropWhile_append_of_ne_nil {p : UInt8 → Bool} {input : Bytes}
    (h : input.dropWhile p ≠ []) (more : Bytes) :
    (input ++ more).dropWhile p = input.dropWhile p ++ more := by
  rw [List.dropWhile_append, if_neg (by simpa using h)]

theorem skipBlanks_append {input rest : Bytes} {b : UInt8} (h : skipBlanks input = b :: rest)
    (more : Bytes) : skipBlanks (input ++ more) = b :: (rest ++ more) := by
  have hne : input.dropWhile isBlank ≠ [] := by
    rw [show input.dropWhile isBlank = b :: rest from h]
    simp
  rw [skipBlanks, dropWhile_append_of_ne_nil hne]
  exact congrArg (· ++ more) h

theorem readLetters_append {cs : List Char} {input rest : Bytes}
    (h : readLetters cs input = .ok rest) (more : Bytes) :
    readLetters cs (input ++ more) = .ok (rest ++ more) := by
  fun_induction readLetters cs input with
  | case1 input => rw [Except.ok.inj h, readLetters]
  | case2 => simp [stop] at h
  | case3 c cs rest' ih => rw [List.cons_append, readLetters, if_pos rfl, ih h]
  | case4 => simp [stop] at h

theorem readColon_append {input rest : Bytes} (h : readColon input = .ok rest) (more : Bytes) :
    readColon (input ++ more) = .ok (rest ++ more) := by
  unfold readColon stop at h
  split at h
  · simp at h
  · next b tail hb =>
    split_ifs at h with hcolon
    rw [readColon, skipBlanks_append hb]
    simp only [hcolon, if_true, Except.ok.inj h]

/-! ### Strings -/

theorem readHex_append {input rest : Bytes} {n : Nat} (h : readHex input = .ok (n, rest))
    (more : Bytes) : readHex (input ++ more) = .ok (n, rest ++ more) := by
  unfold readHex stop at h
  split at h
  · split at h
    · next hdigits₁ hdigits₂ hdigits₃ hdigits₄ =>
      obtain ⟨rfl, rfl⟩ := Prod.mk.inj (Except.ok.inj h)
      simp only [List.cons_append, readHex, hdigits₁, hdigits₂, hdigits₃, hdigits₄]
    · simp at h
  · simp at h

theorem readPair_append {input rest : Bytes} {n : Nat} (h : readPair input = .ok (n, rest))
    (more : Bytes) : readPair (input ++ more) = .ok (n, rest ++ more) := by
  unfold readPair stop at h
  split at h
  · simp at h
  · split_ifs at h
  · split_ifs at h with hbackslash hletter
    rw [List.cons_append, List.cons_append, readPair, if_neg hbackslash, if_neg hletter,
      readHex_append h]

theorem readUnicode_append {input rest : Bytes} {c : Char} (h : readUnicode input = .ok (c, rest))
    (more : Bytes) : readUnicode (input ++ more) = .ok (c, rest ++ more) := by
  unfold readUnicode stop at h
  split at h
  · simp at h
  · next n rest' hn =>
    rw [readUnicode, readHex_append hn]
    dsimp only
    split_ifs at h ⊢ with hlone hlead
    · split at h
      · simp at h
      · next m rest'' hm =>
        rw [readPair_append hm]
        dsimp only
        split_ifs at h ⊢
        obtain ⟨rfl, rfl⟩ := Prod.mk.inj (Except.ok.inj h)
        rfl
    · obtain ⟨rfl, rfl⟩ := Prod.mk.inj (Except.ok.inj h)
      rfl

theorem readEscape_append {input rest : Bytes} {c : Char} (h : readEscape input = .ok (c, rest))
    (more : Bytes) : readEscape (input ++ more) = .ok (c, rest ++ more) := by
  unfold readEscape stop at h
  split at h
  · simp at h
  · next b tail =>
    rw [List.cons_append, readEscape]
    split at h
    · obtain ⟨rfl, rfl⟩ := Prod.mk.inj (Except.ok.inj h)
      rfl
    · split_ifs at h ⊢
      exact readUnicode_append h more

theorem skipEscape_append {input rest : Bytes} (h : skipEscape input = .ok rest)
    (more : Bytes) : skipEscape (input ++ more) = .ok (rest ++ more) := by
  unfold skipEscape stop at h
  split at h
  · simp at h
  · next b tail =>
    rw [List.cons_append, skipEscape]
    split at h
    · rw [Except.ok.inj h]
    · split_ifs at h ⊢
      split at h
      · simp at h
      · next hn => rw [readHex_append hn, Except.ok.inj h]

theorem readOctets_append {input octets rest : Bytes} (h : readOctets input = .ok (octets, rest))
    (more : Bytes) : readOctets (input ++ more) = .ok (octets, rest ++ more) := by
  fun_induction readOctets input generalizing octets rest with
  | case1 => simp [stop] at h
  | case2 tail =>
    obtain ⟨rfl, rfl⟩ := Prod.mk.inj (Except.ok.inj h)
    rw [List.cons_append, readOctets, if_pos rfl]
  | case3 => simp at h
  | case4 tail c rest' hescape hquote ih =>
    obtain ⟨octets', hmore, rfl⟩ := prepend_eq_ok h
    rw [List.cons_append, readOctets, if_neg hquote, if_pos rfl]
    split
    · next hfault => rw [readEscape_append hescape] at hfault; simp at hfault
    · next c' rest'' hread =>
      rw [readEscape_append hescape] at hread
      obtain ⟨rfl, rfl⟩ := Prod.mk.inj (Except.ok.inj hread)
      rw [ih hmore]
      rfl
  | case5 => simp [stop] at h
  | case6 b tail hquote hbackslash hcontrol ih =>
    obtain ⟨octets', hmore, rfl⟩ := prepend_eq_ok h
    rw [List.cons_append, readOctets, if_neg hquote, if_neg hbackslash, if_neg hcontrol, ih hmore]
    rfl

theorem readString_append {input rest : Bytes} {s : String} (h : readString input = .ok (s, rest))
    (more : Bytes) : readString (input ++ more) = .ok (s, rest ++ more) := by
  unfold readString at h
  split at h
  · simp at h
  · next octets rest' hoctets =>
    rw [readString, readOctets_append hoctets]
    dsimp only
    split at h
    · obtain ⟨rfl, rfl⟩ := Prod.mk.inj (Except.ok.inj h)
      rfl
    · simp at h

theorem skipString_append {input rest : Bytes} (h : skipString input = .ok rest)
    (more : Bytes) : skipString (input ++ more) = .ok (rest ++ more) := by
  fun_induction skipString input with
  | case1 => simp [stop] at h
  | case2 tail => rw [List.cons_append, skipString, if_pos rfl, Except.ok.inj h]
  | case3 => simp at h
  | case4 tail rest' hescape hquote ih =>
    rw [List.cons_append, skipString, if_neg hquote, if_pos rfl]
    split
    · next hfault => rw [skipEscape_append hescape] at hfault; simp at hfault
    · next rest'' hread =>
      rw [skipEscape_append hescape] at hread
      rw [← Except.ok.inj hread, ih h]
  | case5 => simp [stop] at h
  | case6 b tail hquote hbackslash hcontrol ih =>
    rw [List.cons_append, skipString, if_neg hquote, if_neg hbackslash, if_neg hcontrol, ih h]

/-! ### Numbers

A number ends where an octet follows that cannot be part of it, so here something has to be left. -/

theorem exponentSign_append {input rest : Bytes} {negative : Bool} {b : UInt8}
    (h : exponentSign input = (negative, b :: rest)) (more : Bytes) :
    exponentSign (input ++ more) = (negative, b :: (rest ++ more)) := by
  unfold exponentSign at h
  split at h
  · simp at h
  · rw [List.cons_append, exponentSign]
    split_ifs at h ⊢ <;> cases h <;> rfl

theorem skipExponent_append {input rest : Bytes} (h : skipExponent input = .ok rest)
    (hne : rest ≠ []) (more : Bytes) : skipExponent (input ++ more) = .ok (rest ++ more) := by
  unfold skipExponent stop at h
  split at h
  · exact absurd (Except.ok.inj h).symm hne
  · next b tail =>
    rw [List.cons_append, skipExponent]
    split_ifs at h ⊢ with hmark
    · cases hsign : exponentSign tail with
      | mk negative signed =>
        rw [hsign] at h
        cases signed with
        | nil => simp at h
        | cons c digits =>
          rw [exponentSign_append hsign]
          dsimp only at h ⊢
          split_ifs at h ⊢
          obtain rfl := Except.ok.inj h
          rw [dropWhile_append_of_ne_nil hne]
    · rw [← Except.ok.inj h]
      rfl

theorem ne_nil_of_length_le {input rest : Bytes} (h : rest.length ≤ input.length)
    (hne : rest ≠ []) : input ≠ [] := by
  rintro rfl
  exact hne (List.eq_nil_of_length_eq_zero (Nat.le_zero.1 h))

theorem head?_any_append {input : Bytes} (h : input ≠ []) (p : UInt8 → Bool) (more : Bytes) :
    (input ++ more).head?.any p = input.head?.any p := by
  cases input with
  | nil => exact absurd rfl h
  | cons b rest => rfl

theorem skipFraction_append {input rest : Bytes} (h : skipFraction input = .ok rest)
    (hne : rest ≠ []) (more : Bytes) : skipFraction (input ++ more) = .ok (rest ++ more) := by
  unfold skipFraction stop at h
  split at h
  · exact absurd (Except.ok.inj h).symm hne
  · next b tail =>
    rw [List.cons_append, skipFraction]
    split_ifs at h with hpoint hdigit
    · have hdigits := ne_nil_of_length_le (skipExponent_length h) hne
      have htail := ne_nil_of_length_le (length_dropDigits_le tail) hdigits
      rw [if_pos hpoint, if_pos (by rwa [head?_any_append htail]),
        dropWhile_append_of_ne_nil hdigits, skipExponent_append h hne]
    · rw [if_neg hpoint]
      exact skipExponent_append h hne more

theorem skipNumber_append {input rest : Bytes} (h : skipNumber input = .ok rest)
    (hne : rest ≠ []) (more : Bytes) : skipNumber (input ++ more) = .ok (rest ++ more) := by
  unfold skipNumber stop at h
  split at h
  · simp at h
  · next b tail =>
    rw [List.cons_append, skipNumber]
    split_ifs at h with hdigit hzero hmore
    · have htail := ne_nil_of_length_le (skipFraction_length h) hne
      rw [if_neg hdigit, if_pos hzero, if_neg (by rwa [head?_any_append htail]),
        skipFraction_append h hne]
    · have hdigits := ne_nil_of_length_le (skipFraction_length h) hne
      rw [if_neg hdigit, if_neg hzero, dropWhile_append_of_ne_nil hdigits,
        skipFraction_append h hne]

/-! ### Values that are passed over -/

theorem skipScalar_append {b : UInt8} {input rest : Bytes} (h : skipScalar b input = .ok rest)
    (hne : rest ≠ []) (more : Bytes) : skipScalar b (input ++ more) = .ok (rest ++ more) := by
  unfold skipScalar stop at h ⊢
  split_ifs at h ⊢
  · exact readLetters_append h more
  · exact readLetters_append h more
  · exact readLetters_append h more
  · exact skipNumber_append h hne more
  · exact skipNumber_append h hne more
  · exact skipString_append h more

theorem Container.skipKey_append {c : Container} {input rest : Bytes}
    (h : c.skipKey input = .ok rest) (more : Bytes) :
    c.skipKey (input ++ more) = .ok (rest ++ more) := by
  cases c with
  | list => exact congrArg (Except.ok <| · ++ more) (Except.ok.inj h)
  | object =>
    simp only [skipKey, stop] at h
    split at h
    · simp at h
    · next b tail hb =>
      split_ifs at h with hquote
      split at h
      · simp at h
      · next rest' hs =>
        simp only [skipKey, skipBlanks_append hb, if_neg hquote, skipString_append hs]
        exact readColon_append h more

section
variable {c : Container} {stack : List Container} {input rest : Bytes} {b : UInt8}

theorem skip_value (h : skipBlanks input = b :: rest) :
    skip .value stack input =
      if b = Ascii.openBracket then skip .opened (.list :: stack) rest
      else if b = Ascii.openBrace then skip .opened (.object :: stack) rest
      else (skipScalar b rest).bind (skip .closed stack) := by
  rw [skip]
  split
  · next hnil => rw [h] at hnil; simp at hnil
  · next b' rest' hcons =>
    rw [h] at hcons
    obtain ⟨rfl, rfl⟩ := List.cons.inj hcons
    split_ifs
    · rfl
    · rfl
    · split <;> simp_all [Except.bind]

theorem skip_opened (h : skipBlanks input = b :: rest) :
    skip .opened (c :: stack) input =
      if b = c.close then skip .closed stack rest
      else (c.skipKey (b :: rest)).bind (skip .value (c :: stack)) := by
  rw [skip]
  split
  · next hnil => rw [h] at hnil; simp at hnil
  · next b' rest' hcons =>
    rw [h] at hcons
    obtain ⟨rfl, rfl⟩ := List.cons.inj hcons
    split_ifs
    · rfl
    · split <;> simp_all [Except.bind]

theorem skip_closed (h : skipBlanks input = b :: rest) :
    skip .closed (c :: stack) input =
      if b = Ascii.comma then (c.skipKey rest).bind (skip .value (c :: stack))
      else if b = c.close then skip .closed stack rest
      else stop c.unseparated .next (b :: rest) := by
  rw [skip]
  split
  · next hnil => rw [h] at hnil; simp at hnil
  · next b' rest' hcons =>
    rw [h] at hcons
    obtain ⟨rfl, rfl⟩ := List.cons.inj hcons
    split_ifs
    · split <;> simp_all [Except.bind]
    · rfl
    · rfl

end

/-- A value that something follows is passed over up to there, whatever comes later. -/
theorem skip_append {phase : Phase} {stack : List Container} {input rest : Bytes}
    (h : skip phase stack input = .ok rest) (hne : rest ≠ []) (more : Bytes) :
    skip phase stack (input ++ more) = .ok (rest ++ more) := by
  fun_induction skip phase stack input with
  | case2 _ _ _ hb ih => rw [skip_value (skipBlanks_append hb more), if_pos rfl, ih h]
  | case3 _ _ _ hb hlist ih =>
    rw [skip_value (skipBlanks_append hb more), if_neg hlist, if_pos rfl, ih h]
  | case5 _ _ _ _ hb hlist hobject _ hscalar ih =>
    have hrest := ne_nil_of_length_le (skip_length h) hne
    rw [skip_value (skipBlanks_append hb more), if_neg hlist, if_neg hobject,
      skipScalar_append hscalar hrest, Except.bind, ih h]
  | case6 | case11 => rw [skip, Except.ok.inj h]
  | case8 _ _ _ _ hb ih => rw [skip_opened (skipBlanks_append hb more), if_pos rfl, ih h]
  | case10 _ _ _ _ _ hb hclose _ hkey ih =>
    have hkey' := Container.skipKey_append hkey more
    rw [List.cons_append] at hkey'
    rw [skip_opened (skipBlanks_append hb more), if_neg hclose, hkey', Except.bind, ih h]
  | case14 _ _ _ _ _ hkey hb ih =>
    rw [skip_closed (skipBlanks_append hb more), if_pos rfl, Container.skipKey_append hkey,
      Except.bind, ih h]
  | case15 _ _ _ _ hb hcomma ih =>
    rw [skip_closed (skipBlanks_append hb more), if_neg hcomma, if_pos rfl, ih h]
  | case1 | case4 | case7 | case9 | case12 | case13 | case16 => simp [stop] at h

/-! ### Members -/

/-- How a text goes on that has more octets at its end. -/
def Step.append (more : Bytes) : Step → Step
  | .member rest => .member (rest ++ more)
  | .done rest => .done (rest ++ more)

theorem nextItem_append {first : Bool} {input : Bytes} {step : Step}
    (h : nextItem first input = .ok step) (more : Bytes) :
    nextItem first (input ++ more) = .ok (step.append more) := by
  unfold nextItem stop at h
  split at h
  · simp at h
  · next b tail hb =>
    rw [nextItem, skipBlanks_append hb]
    dsimp only
    split_ifs at h ⊢
    · rw [← Except.ok.inj h, Step.append]
    · rw [← Except.ok.inj h, Step.append, List.cons_append]
    · split at h
      · simp at h
      · next c tail' hc =>
        rw [skipBlanks_append hc]
        dsimp only
        split_ifs at h ⊢
        rw [← Except.ok.inj h, Step.append, List.cons_append]

theorem nextKey_append {first : Bool} {input : Bytes} {step : Step}
    (h : nextKey first input = .ok step) (more : Bytes) :
    nextKey first (input ++ more) = .ok (step.append more) := by
  unfold nextKey stop at h
  split at h
  · simp at h
  · next b tail hb =>
    rw [nextKey, skipBlanks_append hb]
    dsimp only
    split_ifs at h ⊢
    · rw [← Except.ok.inj h, Step.append]
    · rw [← Except.ok.inj h, Step.append]
    · split at h
      · simp at h
      · next c tail' hc =>
        rw [skipBlanks_append hc]
        dsimp only
        split_ifs at h ⊢
        rw [← Except.ok.inj h, Step.append]

/-! ### Readers -/

variable {α β σ : Type}

/-- A reader that takes the same from a text whatever is put behind it. -/
def Reader.IsLocal (reader : Reader α) : Prop :=
  ∀ ⦃input : Bytes⦄ ⦃a : α⦄ ⦃rest : Bytes⦄, reader.read input = .ok (a, rest) →
    ∀ more, reader.read (input ++ more) = .ok (a, rest ++ more)

theorem Reader.IsLocal.map {reader : Reader α} (h : reader.IsLocal) (f : α → β) :
    (reader.map f).IsLocal := by
  intro input b rest hread more
  simp only [Reader.map] at hread ⊢
  split at hread
  · simp at hread
  · next a rest' ha =>
    obtain ⟨rfl, rfl⟩ := Prod.mk.inj (Except.ok.inj hread)
    rw [h ha]

theorem string_isLocal (expected : String) : (Reader.string expected).IsLocal := by
  intro input s rest hread more
  simp only [Reader.string, stop] at hread ⊢
  split at hread
  · simp at hread
  · next b tail hb =>
    rw [skipBlanks_append hb]
    dsimp only
    split_ifs at hread ⊢
    · exact readString_append hread more
    · exact absurd hread (refuse_ne_ok _ _ _ _)

theorem readItems_append {item : Reader α} (hitem : item.IsLocal) {first : Bool}
    {input rest : Bytes} {as : List α} (h : readItems item first input = .ok (as, rest))
    (more : Bytes) : readItems item first (input ++ more) = .ok (as, rest ++ more) := by
  fun_induction readItems item first input generalizing as rest with
  | case2 first input tail hnext =>
    obtain ⟨rfl, rfl⟩ := Prod.mk.inj (Except.ok.inj h)
    exact readItems_end (nextItem_append hnext more)
  | case5 first input tail hnext a tail' hread as' tail'' hmore ih =>
    obtain ⟨rfl, rfl⟩ := Prod.mk.inj (Except.ok.inj h)
    exact readItems_member (nextItem_append hnext more) (hitem hread more) (ih hmore)
  | case1 | case3 | case4 => simp at h

theorem Reader.IsLocal.list {item : Reader α} (hitem : item.IsLocal) :
    (Reader.list item).IsLocal := by
  intro input as rest hread more
  simp only [Reader.list, stop] at hread ⊢
  split at hread
  · simp at hread
  · next b tail hb =>
    rw [skipBlanks_append hb]
    dsimp only
    split_ifs at hread ⊢
    · exact readItems_append hitem hread more
    · exact absurd hread (refuse_ne_ok _ _ _ _)

/-! ### Records -/

namespace Record

variable {record : Record σ α}

/-- All fields of a record are read by such readers. -/
def IsLocal (record : Record σ α) : Prop :=
  ∀ slot ∈ record.slots, ∀ collected, (slot.fill collected).IsLocal

theorem refuseDuplicate_ne_ok (name : String) (input : Bytes) (result : σ × Bytes) :
    refuseDuplicate name input ≠ .ok result := by
  unfold refuseDuplicate stop
  split
  · simp
  · split_ifs <;> simp

theorem readMember_append (hrecord : record.IsLocal) {key : String} {collected collected' : σ}
    {input rest : Bytes} (h : record.readMember key collected input = .ok (collected', rest))
    (hne : rest ≠ []) (more : Bytes) :
    record.readMember key collected (input ++ more) = .ok (collected', rest ++ more) := by
  unfold readMember at h ⊢
  split at h
  · next slot hslot =>
    split_ifs at h ⊢
    · exact absurd h (refuseDuplicate_ne_ok _ _ _)
    · split at h
      · simp at h
      · next tail hcolon =>
        rw [readColon_append hcolon]
        exact hrecord slot (List.mem_of_find?_eq_some hslot) collected h more
  · split at h
    · simp at h
    · next tail hcolon =>
      rw [readColon_append hcolon]
      dsimp only
      split at h
      · simp at h
      · next tail' hskip =>
        obtain ⟨rfl, rfl⟩ := Prod.mk.inj (Except.ok.inj h)
        rw [skipValue, skip_append hskip hne]

theorem readMembers_append (hrecord : record.IsLocal) {first : Bool} {collected collected' : σ}
    {input rest : Bytes} (h : record.readMembers first collected input = .ok (collected', rest))
    (more : Bytes) :
    record.readMembers first collected (input ++ more) = .ok (collected', rest ++ more) := by
  fun_induction readMembers record first collected input with
  | case2 _ _ _ _ hnext =>
    obtain ⟨rfl, rfl⟩ := Prod.mk.inj (Except.ok.inj h)
    exact record.readMembers_end (nextKey_append hnext more)
  | case5 _ _ _ _ hnext _ _ hkey _ _ hmember ih =>
    -- The object goes on after the member, so a number there would be ended.
    have hne := List.ne_nil_of_length_pos (Nat.zero_lt_of_lt (record.readMembers_length h))
    rw [record.readMembers_next (nextKey_append hnext more) (readString_append hkey more)
      (readMember_append hrecord hmember hne more), ih h]
  | case1 | case3 | case4 => simp at h

theorem readSlots_append (hrecord : record.IsLocal) {index : Nat} {slots : List (Slot σ)}
    (hslots : ∀ slot ∈ slots, slot ∈ record.slots) {collected collected' : σ} {input rest : Bytes}
    (h : record.readSlots index slots collected input = .ok (collected', rest)) (more : Bytes) :
    record.readSlots index slots collected (input ++ more) = .ok (collected', rest ++ more) := by
  induction slots generalizing index collected input with
  | nil =>
    obtain ⟨rfl, rfl⟩ := Prod.mk.inj (Except.ok.inj h)
    rfl
  | cons slot slots ih =>
    unfold readSlots stop at h
    split at h
    · simp at h
    · simp at h
    · next tail hnext =>
      split at h
      · simp at h
      · next collected'' tail' hfill =>
        rw [readSlots, nextItem_append hnext]
        dsimp only [Step.append]
        rw [hrecord slot (hslots slot List.mem_cons_self) collected hfill]
        exact ih (fun s hs => hslots s (List.mem_cons_of_mem _ hs)) h

theorem closeSlots_append {input rest : Bytes} (h : closeSlots input = .ok rest) (more : Bytes) :
    closeSlots (input ++ more) = .ok (rest ++ more) := by
  unfold closeSlots stop at h
  split at h
  · simp at h
  · next b tail hb =>
    split_ifs at h with hclose
    rw [closeSlots, skipBlanks_append hb]
    simp only [hclose, if_true, Except.ok.inj h]

theorem close_append {collected : σ} {rest rest' : Bytes} {a : α}
    (h : record.close collected rest = .ok (a, rest')) (more : Bytes) :
    record.close collected (rest ++ more) = .ok (a, rest' ++ more) := by
  unfold close stop at h ⊢
  split at h
  · simp at h
  · obtain ⟨rfl, rfl⟩ := Prod.mk.inj (Except.ok.inj h)
    rfl

end Record

theorem Record.IsLocal.reader {record : Record σ α} (hrecord : record.IsLocal) :
    (Reader.record record).IsLocal := by
  intro input a rest hread more
  simp only [Reader.record, Record.read, stop] at hread ⊢
  split at hread
  · simp at hread
  · next b tail hb =>
    rw [skipBlanks_append hb]
    dsimp only
    split_ifs at hread ⊢
    · split at hread
      · simp at hread
      · next collected tail' hslots =>
        rw [Record.readSlots_append hrecord (fun _ h => h) hslots]
        dsimp only
        split at hread
        · simp at hread
        · next tail'' hclose =>
          rw [Record.closeSlots_append hclose]
          exact Record.close_append hread more
    · split at hread
      · simp at hread
      · next collected tail' hmembers =>
        rw [Record.readMembers_append hrecord hmembers]
        exact Record.close_append hread more
    · exact absurd hread (refuse_ne_ok _ _ _ _)

/-! ### Torn texts -/

/-- A text that lacks something at its end, or has more behind it than blanks. -/
def Torn (text damaged : Bytes) : Prop :=
  (∃ missing, missing ≠ [] ∧ damaged ++ missing = text) ∨
    ∃ more, ¬ IsGap more ∧ damaged = text ++ more

section
variable {reader : Reader α} {text : Bytes} {a : α}

/-- Only blanks may follow a text that is taken. -/
theorem Reader.Takes.readAll_append (h : reader.Takes text a) (more : Bytes) :
    (IsGap more → reader.readAll (text ++ more) = .ok a) ∧
      (¬ IsGap more → ∃ fault, reader.readAll (text ++ more) = .error fault) := by
  have hread := h.read isGap_nil more
  rw [List.nil_append] at hread
  simp only [Reader.readAll, hread]
  cases hblanks : skipBlanks more with
  | nil =>
    have hgap : IsGap more := List.dropWhile_eq_nil_iff.1 hblanks
    exact ⟨fun _ => rfl, fun hno => absurd hgap hno⟩
  | cons b rest =>
    refine ⟨fun hgap => ?_, fun _ => ⟨_, rfl⟩⟩
    rw [skipBlanks, List.dropWhile_eq_nil_iff.2 hgap] at hblanks
    simp at hblanks

/-- **A torn text is not read.** -/
theorem Reader.IsLocal.readAll_torn (hlocal : reader.IsLocal) (h : reader.Takes text a)
    {damaged : Bytes} (htorn : Torn text damaged) :
    ∃ fault, reader.readAll damaged = .error fault := by
  rcases htorn with ⟨missing, hmissing, rfl⟩ | ⟨more, hmore, rfl⟩
  · -- What could be read of the beginning would be all that is read of the whole text.
    cases hread : reader.read damaged with
    | error fault => exact ⟨fault, by rw [Reader.readAll, hread]⟩
    | ok read =>
      have hlong := hlocal hread missing
      have hwhole := h.read isGap_nil []
      rw [List.nil_append, List.append_nil, hlong] at hwhole
      have hrest : read.2 ++ missing = [] := (Prod.mk.inj (Except.ok.inj hwhole)).2
      exact absurd (List.append_eq_nil_iff.1 hrest).2 hmissing
  · exact (h.readAll_append more).2 hmore

end

end TableStore.Json
