import TableStore.Json.Reader
import TableStore.Json.Writer
import TableStore.Proofs.Json.Text

/-!
# Written values are read back

A reader takes a text as a value if it gives that value for the text, whatever blanks come before it
and whatever octets follow it. `Reader.string` takes written strings; `Reader.list` and
`Reader.record` take lists and objects in either layout, once their members are taken.
-/

namespace TableStore.Json

variable {α β σ : Type}

/-! ### Blanks -/

/-- Octets between the parts of a text. -/
def IsGap (gap : Bytes) : Prop :=
  ∀ b ∈ gap, isBlank b = true

theorem isGap_nil : IsGap [] := by
  intro b hb
  simp at hb

theorem isGap_space : IsGap [Ascii.space] := by
  intro b hb
  rw [List.mem_singleton.1 hb]
  decide

theorem isGap_lineBreak (depth : Nat) : IsGap (lineBreak depth) := by
  intro b hb
  rcases List.mem_cons.1 hb with rfl | hb
  · decide
  · rw [List.eq_of_mem_replicate hb]
    decide

theorem skipBlanks_gap {gap : Bytes} (hgap : IsGap gap) {b : UInt8} (hb : isBlank b = false)
    (rest : Bytes) : skipBlanks (gap ++ b :: rest) = b :: rest := by
  rw [skipBlanks, List.dropWhile_append_of_pos hgap, List.dropWhile_cons, hb]
  rfl

/-! ### Taking a text -/

/-- A reader takes a text as a value, whatever blanks come before it and whatever follows it. No
blank and no closing bracket starts the text. -/
structure Reader.Takes (reader : Reader α) (text : Bytes) (a : α) : Prop where
  starts : ∃ b tail, text = b :: tail ∧ isBlank b = false ∧ b ≠ Ascii.closeBracket
  read : ∀ {gap : Bytes}, IsGap gap → ∀ rest, reader.read (gap ++ (text ++ rest)) = .ok (a, rest)

/-- A text that is taken is one that holds the value. -/
theorem Reader.Takes.readAll {reader : Reader α} {text : Bytes} {a : α}
    (h : reader.Takes text a) : reader.readAll text = .ok a := by
  have hread := h.read isGap_nil []
  rw [List.nil_append, List.append_nil] at hread
  rw [Reader.readAll, hread]
  rfl

theorem Reader.Takes.map {reader : Reader α} {text : Bytes} {a : α} (f : α → β)
    (h : reader.Takes text a) : (reader.map f).Takes text (f a) where
  starts := h.starts
  read hgap rest := by
    simp only [Reader.map, h.read hgap rest]

/-! ### Strings -/

theorem writeString_append (s : String) (rest : Bytes) :
    writeString s ++ rest = Ascii.quote :: (s.toList.flatMap writeChar ++ Ascii.quote :: rest) := by
  simp [writeString]

theorem string_takes (expected s : String) : (Reader.string expected).Takes (writeString s) s where
  starts := ⟨Ascii.quote, _, rfl, by decide, by decide⟩
  read hgap rest := by
    rw [writeString_append]
    simp only [Reader.string, skipBlanks_gap hgap (show isBlank Ascii.quote = false by decide),
      if_true, readString_writeString]

/-! ### Separated members -/

theorem separated_cons (separator text : Bytes) (texts : List Bytes) :
    separated separator (text :: texts) = text ++ texts.flatMap (separator ++ ·) := by
  induction texts generalizing text with
  | nil => simp [separated]
  | cons next texts ih =>
    rw [separated, ih, List.flatMap_cons]
    · simp
    · simp

/-! ### Lists -/

section lists
variable {item : Reader α}

theorem nextItem_end (first : Bool) {gap : Bytes} (hgap : IsGap gap) (rest : Bytes) :
    nextItem first (gap ++ Ascii.closeBracket :: rest) = .ok (.done rest) := by
  rw [nextItem, skipBlanks_gap hgap (by decide)]
  rfl

theorem nextItem_first {gap : Bytes} (hgap : IsGap gap) {b : UInt8} (hb : isBlank b = false)
    (hclose : b ≠ Ascii.closeBracket) (rest : Bytes) :
    nextItem true (gap ++ b :: rest) = .ok (.member (b :: rest)) := by
  rw [nextItem, skipBlanks_gap hgap hb]
  simp only [if_neg hclose, if_true]

theorem nextItem_comma {gap : Bytes} (hgap : IsGap gap) {b : UInt8} (hb : isBlank b = false)
    (hclose : b ≠ Ascii.closeBracket) (rest : Bytes) :
    nextItem false (Ascii.comma :: (gap ++ b :: rest)) = .ok (.member (b :: rest)) := by
  have hcomma : skipBlanks (Ascii.comma :: (gap ++ b :: rest)) = Ascii.comma :: (gap ++ b :: rest) :=
    skipBlanks_gap isGap_nil (by decide) _
  rw [nextItem, hcomma]
  simp only [skipBlanks_gap hgap hb, if_neg hclose]
  rfl

theorem readItems_end {first : Bool} {input rest : Bytes}
    (h : nextItem first input = .ok (.done rest)) : readItems item first input = .ok ([], rest) := by
  rw [readItems]
  split <;> simp_all

theorem readItems_member {first : Bool} {input text rest rest' : Bytes} {a : α} {as : List α}
    (hnext : nextItem first input = .ok (.member text)) (hitem : item.read text = .ok (a, rest))
    (hmore : readItems item false rest = .ok (as, rest')) :
    readItems item first input = .ok (a :: as, rest') := by
  rw [readItems]
  split
  · simp_all
  · simp_all
  · next text' hnext' =>
    rw [hnext] at hnext'
    obtain rfl := Step.member.inj (Except.ok.inj hnext')
    split
    · simp_all
    · next a' rest'' hitem' =>
      rw [hitem] at hitem'
      obtain ⟨rfl, rfl⟩ := Prod.mk.inj (Except.ok.inj hitem')
      rw [hmore]

/-- The members after the first one, each after its comma, up to the end of the list. -/
theorem readItems_rest {texts : List Bytes} {as : List α} (h : List.Forall₂ item.Takes texts as)
    {gap last : Bytes} (hgap : IsGap gap) (hlast : IsGap last) (rest : Bytes) :
    readItems item false
      (texts.flatMap (Ascii.comma :: gap ++ ·) ++ (last ++ Ascii.closeBracket :: rest))
      = .ok (as, rest) := by
  induction h with
  | nil => exact readItems_end (nextItem_end false hlast rest)
  | @cons text a texts as htext _ ih =>
    obtain ⟨b, tail, rfl, hb, hclose⟩ := htext.starts
    rw [List.flatMap_cons, List.cons_append, List.cons_append, List.append_assoc, List.cons_append,
      List.append_assoc, List.append_assoc, List.cons_append]
    refine readItems_member (nextItem_comma hgap hb hclose _) ?_ ih
    exact htext.read isGap_nil _

theorem readItems_list {texts : List Bytes} {as : List α} (h : List.Forall₂ item.Takes texts as)
    {first gap last : Bytes} (hfirst : IsGap first) (hgap : IsGap gap) (hlast : IsGap last)
    (rest : Bytes) :
    readItems item true
      (first ++ (separated (Ascii.comma :: gap) texts ++ (last ++ Ascii.closeBracket :: rest)))
      = .ok (as, rest) := by
  cases h with
  | nil =>
    refine readItems_end ?_
    rw [separated, List.nil_append, ← List.append_assoc]
    exact nextItem_end true (fun b hb => (List.mem_append.1 hb).elim (hfirst b) (hlast b)) rest
  | @cons text a texts as htext hmore =>
    obtain ⟨b, tail, rfl, hb, hclose⟩ := htext.starts
    rw [separated_cons, List.append_assoc, List.cons_append]
    refine readItems_member (nextItem_first hfirst hb hclose _) ?_ (readItems_rest hmore hgap hlast rest)
    exact htext.read isGap_nil _

theorem list_read {texts : List Bytes} {as : List α} (h : List.Forall₂ item.Takes texts as)
    {before first gap last : Bytes} (hbefore : IsGap before) (hfirst : IsGap first) (hgap : IsGap gap)
    (hlast : IsGap last) (rest : Bytes) :
    (Reader.list item).read (before ++ Ascii.openBracket
      :: (first ++ (separated (Ascii.comma :: gap) texts ++ (last ++ Ascii.closeBracket :: rest))))
      = .ok (as, rest) := by
  simp only [Reader.list, skipBlanks_gap hbefore (show isBlank Ascii.openBracket = false by decide),
    if_true]
  exact readItems_list h hfirst hgap hlast rest

/-- A list on one line is read back. -/
theorem writeList_takes {texts : List Bytes} {as : List α} (h : List.Forall₂ item.Takes texts as) :
    (Reader.list item).Takes (writeList texts) as where
  starts := ⟨Ascii.openBracket, _, rfl, by decide, by decide⟩
  read hgap rest := by
    have hread := list_read h hgap isGap_nil isGap_nil isGap_nil rest
    rw [writeList]
    simpa using hread

/-- An indented list is read back. -/
theorem indentList_takes {texts : List Bytes} {as : List α} (h : List.Forall₂ item.Takes texts as)
    (depth : Nat) : (Reader.list item).Takes (indentList depth texts) as where
  starts := by
    rw [indentList, writeLines]
    split_ifs
    · exact ⟨Ascii.openBracket, _, rfl, by decide, by decide⟩
    · exact ⟨Ascii.openBracket, _, rfl, by decide, by decide⟩
  read hgap rest := by
    rw [indentList, writeLines]
    split_ifs with hempty
    · have hread := list_read h hgap isGap_nil isGap_nil isGap_nil rest
      rw [List.isEmpty_iff.1 hempty] at hread
      simpa [separated] using hread
    · have hread := list_read h hgap (isGap_lineBreak (depth + 1)) (isGap_lineBreak (depth + 1))
        (isGap_lineBreak depth) rest
      simpa using hread

end lists

/-! ### Records -/

section records
variable (record : Record σ α)

/-- A record collects the members of an object one after the other: each names a field that is not
there yet, and the reader of the field takes its text. -/
inductive Record.Collects : σ → List (String × Bytes) → σ → Prop where
  | nil (s : σ) : Collects s [] s
  | cons {s s' s'' : σ} {slot : Slot σ} {key : String} {value : Bytes}
      {members : List (String × Bytes)} (hslot : record.slots.find? (·.name = key) = some slot)
      (hfree : slot.filled s = false) (hvalue : (slot.fill s).Takes value s')
      (hmore : Collects s' members s'') : Collects s ((key, value) :: members) s''

theorem nextKey_end (first : Bool) {gap : Bytes} (hgap : IsGap gap) (rest : Bytes) :
    nextKey first (gap ++ Ascii.closeBrace :: rest) = .ok (.done rest) := by
  rw [nextKey, skipBlanks_gap hgap (by decide)]
  rfl

theorem nextKey_first {gap : Bytes} (hgap : IsGap gap) (rest : Bytes) :
    nextKey true (gap ++ Ascii.quote :: rest) = .ok (.member rest) := by
  rw [nextKey, skipBlanks_gap hgap (by decide)]
  rfl

theorem nextKey_comma {gap : Bytes} (hgap : IsGap gap) (rest : Bytes) :
    nextKey false (Ascii.comma :: (gap ++ Ascii.quote :: rest)) = .ok (.member rest) := by
  have hcomma : skipBlanks (Ascii.comma :: (gap ++ Ascii.quote :: rest))
      = Ascii.comma :: (gap ++ Ascii.quote :: rest) := skipBlanks_gap isGap_nil (by decide) _
  rw [nextKey, hcomma]
  simp only [skipBlanks_gap hgap (show isBlank Ascii.quote = false by decide)]
  rfl

theorem indentMember_append (key : String) (value rest : Bytes) :
    indentMember (key, value) ++ rest
      = Ascii.quote :: (key.toList.flatMap writeChar
          ++ Ascii.quote :: (Ascii.colon :: ([Ascii.space] ++ (value ++ rest)))) := by
  simp [indentMember, writeString]

theorem Record.readMember_value {s s' : σ} {slot : Slot σ} {key : String} {value : Bytes}
    (hslot : record.slots.find? (·.name = key) = some slot) (hfree : slot.filled s = false)
    (hvalue : (slot.fill s).Takes value s') (rest : Bytes) :
    record.readMember key s (Ascii.colon :: ([Ascii.space] ++ (value ++ rest))) = .ok (s', rest) := by
  have hcolon : readColon (Ascii.colon :: ([Ascii.space] ++ (value ++ rest)))
      = .ok ([Ascii.space] ++ (value ++ rest)) := by
    rw [readColon, show skipBlanks (Ascii.colon :: ([Ascii.space] ++ (value ++ rest))) = _ from
      skipBlanks_gap isGap_nil (by decide) _]
    rfl
  simp only [readMember, hslot, hfree, Bool.false_eq_true, if_false, hcolon,
    hvalue.read isGap_space rest]

theorem Record.readMembers_end {first : Bool} {s : σ} {input rest : Bytes}
    (h : nextKey first input = .ok (.done rest)) : record.readMembers first s input = .ok (s, rest) := by
  rw [readMembers]
  split <;> simp_all

theorem Record.readMembers_next {first : Bool} {s s' : σ} {key : String}
    {input text text' rest : Bytes} (hnext : nextKey first input = .ok (.member text))
    (hkey : readString text = .ok (key, text'))
    (hmember : record.readMember key s text' = .ok (s', rest)) :
    record.readMembers first s input = record.readMembers false s' rest := by
  rw [readMembers]
  split
  · simp_all
  · simp_all
  · next text'' hnext' =>
    rw [hnext] at hnext'
    obtain rfl := Step.member.inj (Except.ok.inj hnext')
    split
    · simp_all
    · next key' rest' hkey' =>
      rw [hkey] at hkey'
      obtain ⟨rfl, rfl⟩ := Prod.mk.inj (Except.ok.inj hkey')
      split
      · simp_all
      · next s'' rest'' hmember' =>
        rw [hmember] at hmember'
        obtain ⟨rfl, rfl⟩ := Prod.mk.inj (Except.ok.inj hmember')
        rfl

theorem Record.readMembers_member {first : Bool} {s s' : σ} {slot : Slot σ} {key : String}
    {value input rest : Bytes} {r : Except Fault (σ × Bytes)}
    (hslot : record.slots.find? (·.name = key) = some slot) (hfree : slot.filled s = false)
    (hvalue : (slot.fill s).Takes value s')
    (hnext : nextKey first input = .ok (.member (key.toList.flatMap writeChar
      ++ Ascii.quote :: (Ascii.colon :: ([Ascii.space] ++ (value ++ rest))))))
    (hmore : record.readMembers false s' rest = r) : record.readMembers first s input = r := by
  have hkey := readString_writeString key (Ascii.colon :: ([Ascii.space] ++ (value ++ rest)))
  have hmember := record.readMember_value hslot hfree hvalue rest
  rw [record.readMembers_next hnext hkey hmember]
  exact hmore

theorem Record.readMembers_rest {s s' : σ} {members : List (String × Bytes)}
    (h : record.Collects s members s') {gap last : Bytes} (hgap : IsGap gap) (hlast : IsGap last)
    (rest : Bytes) :
    record.readMembers false s
      ((members.map indentMember).flatMap (Ascii.comma :: gap ++ ·)
        ++ (last ++ Ascii.closeBrace :: rest)) = .ok (s', rest) := by
  induction h with
  | nil s => exact record.readMembers_end (nextKey_end false hlast rest)
  | cons hslot hfree hvalue _ ih =>
    rw [List.map_cons, List.flatMap_cons, List.cons_append, List.cons_append, List.append_assoc,
      List.cons_append, List.append_assoc, List.append_assoc, indentMember_append]
    exact record.readMembers_member hslot hfree hvalue (nextKey_comma hgap _) ih

/-- **An indented object is read back** as the record made of its members. -/
theorem indentObject_takes {members : List (String × Bytes)} {s : σ} {a : α} (hne : members ≠ [])
    (h : record.Collects record.empty members s) (hfinish : record.finish s = .ok a)
    (depth : Nat) : (Reader.record record).Takes (indentObject depth members) a := by
  cases h with
  | nil => exact absurd rfl hne
  | @cons s₀ s' _ slot key value members hslot hfree hvalue hmore =>
    have htext : ∀ rest, indentObject depth ((key, value) :: members) ++ rest
        = Ascii.openBrace :: (lineBreak (depth + 1) ++ (indentMember (key, value)
          ++ ((members.map indentMember).flatMap (Ascii.comma :: lineBreak (depth + 1) ++ ·)
            ++ (lineBreak depth ++ Ascii.closeBrace :: rest)))) := by
      intro rest
      rw [indentObject, writeLines, if_neg (by simp), List.map_cons, separated_cons]
      simp
    constructor
    · have hstart := htext []
      rw [List.append_nil] at hstart
      exact ⟨Ascii.openBrace, _, hstart, by decide, by decide⟩
    · intro gap hgap rest
      have hmembers : record.readMembers true record.empty (lineBreak (depth + 1)
          ++ (indentMember (key, value)
            ++ ((members.map indentMember).flatMap (Ascii.comma :: lineBreak (depth + 1) ++ ·)
              ++ (lineBreak depth ++ Ascii.closeBrace :: rest)))) = .ok (s, rest) := by
        rw [indentMember_append]
        exact record.readMembers_member hslot hfree hvalue (nextKey_first (isGap_lineBreak _) _)
          (record.readMembers_rest hmore (isGap_lineBreak _) (isGap_lineBreak _) rest)
      rw [htext]
      simp only [Reader.record, Record.read,
        skipBlanks_gap hgap (show isBlank Ascii.openBrace = false by decide), hmembers]
      rw [if_neg (by decide), if_pos trivial, Record.close, hfinish]

end records

end TableStore.Json
