import Mathlib.Data.List.Forall2
import Mathlib.Tactic.SplitIfs
import TableStore.Csv.Reader

/-!
# The first fault of a source

The records that a source delivers, before anything is asked of them, and what reading them comes
to: the texts of all of them, or the first fault in the order of the stream. A source that fails
comes after all records that it has delivered, and a record that no line end closed is not among
them. Of the reads it delivers, only the first one matters for more than its octets.
-/

namespace TableStore.Csv

/-! ### Records before they are looked at -/

/-- The octets from where reading a record begins, and its fields. -/
structure RawRecord where
  left : Bytes
  fields : List Bytes

/-- The records after the octets of a mark. With `complete` unset the source fails where the octets
end, and delivers no record that no line end closed. -/
def rawRecords (complete : Bool) (mark : Nat) (input : Bytes) : List RawRecord :=
  match _h : recordStart mark input with
  | [] => []
  | b :: tail =>
    let scanned := scan .start (b :: tail)
    if !scanned.closed && !complete then []
    else ⟨input, scanned.field :: scanned.more⟩ :: rawRecords complete 0 scanned.rest
termination_by input.length
decreasing_by
  have h₁ := scan_start_length b tail
  have h₂ := recordStart_length_le mark input
  rw [_h] at h₂
  exact Nat.lt_of_lt_of_le h₁ h₂

/-- The records that a source delivers. -/
def Source.delivered (source : Source) : List RawRecord :=
  rawRecords source.complete source.markSize source.text

/-- The number of fields that every record has to have: as many as the first one. -/
def widthOf (records : List RawRecord) : Nat :=
  (records.head?.map fun record => record.fields.length).getD 0

namespace RawRecord

/-- A record is as wide as the first one and has these texts in its fields. -/
structure Reads (width : Nat) (record : RawRecord) (texts : List String) : Prop where
  length : record.fields.length = width
  texts : record.fields.map Utf8.decode = texts.map .ok

/-- What is wrong with a record: its width, which is looked at first, or the first of its fields
that is not UTF-8. -/
inductive Faulty (width : Nat) (record : RawRecord) : RecordFault → Prop
  | length (hlength : record.fields.length ≠ width) :
      Faulty width record (.unequalLengths width record.fields.length)
  | text {before after : List Bytes} {field : Bytes} {fault : Utf8.Fault}
      (hlength : record.fields.length = width) (hfields : record.fields = before ++ field :: after)
      (hbefore : ∀ other ∈ before, ∃ text, Utf8.decode other = .ok text)
      (hfield : Utf8.decode field = .error fault) :
      Faulty width record (.invalidText before.length fault.index)

end RawRecord

/-- Where reading records stops: at the first one with a fault, with those before it read, or at the
end of a source that fails. -/
inductive FirstStop (complete : Bool) (width number : Nat) (records : List RawRecord) : Stop → Prop
  | record {before after : List RawRecord} {record : RawRecord} {fault : RecordFault}
      (hrecords : records = before ++ record :: after)
      (hbefore : ∀ other ∈ before, ∃ texts, other.Reads width texts)
      (hfault : record.Faulty width fault) :
      FirstStop complete width number records (.record (number + before.length) record.left fault)
  | broken (hfails : complete = false)
      (hrecords : ∀ record ∈ records, ∃ texts, record.Reads width texts) :
      FirstStop complete width number records .broken

/-! ### One record -/

section
variable {width i : Nat} {fields before after : List Bytes} {field : Bytes} {texts : List String}
  {record : RawRecord}

theorem decodeFields_ok (h : fields.map Utf8.decode = texts.map .ok) :
    decodeFields i fields = .ok texts := by
  induction fields generalizing i texts with
  | nil =>
    obtain rfl := List.map_eq_nil_iff.1 h.symm
    rfl
  | cons field fields ih =>
    cases texts with
    | nil => simp at h
    | cons text texts =>
      rw [List.map_cons, List.map_cons] at h
      obtain ⟨hfield, hrest⟩ := List.cons.inj h
      rw [decodeFields, hfield, ih hrest]

theorem decodeFields_fault {fault : Utf8.Fault}
    (hbefore : ∀ other ∈ before, ∃ text, Utf8.decode other = .ok text)
    (hfield : Utf8.decode field = .error fault) :
    decodeFields i (before ++ field :: after)
      = .error (.invalidText (i + before.length) fault.index) := by
  induction before generalizing i with
  | nil => rw [List.nil_append, decodeFields, hfield]; rfl
  | cons other before ih =>
    obtain ⟨⟨text, hother⟩, hrest⟩ := List.forall_mem_cons.1 hbefore
    rw [List.cons_append, decodeFields, hother, ih hrest, List.length_cons]
    simp only [Nat.add_assoc, Nat.add_comm 1]

theorem RawRecord.Reads.checkRecord (h : record.Reads width texts) :
    checkRecord (some width) record.fields = .ok texts := by
  rw [Csv.checkRecord, if_pos h.length]
  exact decodeFields_ok h.texts

theorem RawRecord.Faulty.checkRecord {fault : RecordFault} (h : record.Faulty width fault) :
    checkRecord (some width) record.fields = .error fault := by
  rw [Csv.checkRecord]
  cases h with
  | length hlength => rw [if_neg hlength]
  | text hlength hfields hbefore hfield =>
    rw [if_pos hlength, hfields, decodeFields_fault hbefore hfield, Nat.zero_add]

theorem fields_cases (fields : List Bytes) :
    (∃ texts : List String, fields.map Utf8.decode = texts.map .ok) ∨
      ∃ before field after fault, fields = before ++ field :: after ∧
        (∀ other ∈ before, ∃ text, Utf8.decode other = .ok text) ∧
        Utf8.decode field = .error fault := by
  induction fields with
  | nil => exact .inl ⟨[], rfl⟩
  | cons field fields ih =>
    cases hfield : Utf8.decode field with
    | error fault => exact .inr ⟨[], field, fields, fault, rfl, by simp, hfield⟩
    | ok text =>
      rcases ih with ⟨texts, htexts⟩ | ⟨before, other, after, fault, rfl, hbefore, hother⟩
      · exact .inl ⟨text :: texts, by rw [List.map_cons, List.map_cons, hfield, htexts]⟩
      · exact .inr ⟨field :: before, other, after, fault, rfl,
          List.forall_mem_cons.2 ⟨⟨text, hfield⟩, hbefore⟩, hother⟩

theorem RawRecord.cases (width : Nat) (record : RawRecord) :
    (∃ texts, record.Reads width texts) ∨ ∃ fault, record.Faulty width fault := by
  by_cases hlength : record.fields.length = width
  · rcases fields_cases record.fields with
      ⟨texts, htexts⟩ | ⟨before, field, after, fault, hfields, hbefore, hfield⟩
    · exact .inl ⟨texts, hlength, htexts⟩
    · exact .inr ⟨_, .text hlength hfields hbefore hfield⟩
  · exact .inr ⟨_, .length hlength⟩

theorem RawRecord.Reads.decode (h : record.Reads width texts) :
    ∀ field ∈ record.fields, ∃ text, Utf8.decode field = .ok text := by
  intro field hfield
  have hmem : Utf8.decode field ∈ texts.map Except.ok := h.texts ▸ List.mem_map_of_mem hfield
  obtain ⟨text, -, htext⟩ := List.mem_map.1 hmem
  exact ⟨text, htext.symm⟩

theorem RawRecord.Reads.length_texts (h : record.Reads width texts) : texts.length = width := by
  have hlength := congrArg List.length h.texts
  rw [List.length_map, List.length_map] at hlength
  rw [← hlength, h.length]

theorem exists_reads {records : List RawRecord} {rows : List (List String)}
    (h : List.Forall₂ (RawRecord.Reads width) records rows) :
    ∀ record ∈ records, ∃ texts, record.Reads width texts :=
  ((List.forall₂_and_left _ _).1 (h.imp fun _ texts hreads => ⟨⟨texts, hreads⟩, hreads⟩)).1

end

/-! ### All records -/

/-- What records come to one after the other. -/
def checkRecords (complete : Bool) (width number : Nat) :
    List RawRecord → Except Stop (List (List String))
  | [] => if complete then .ok [] else .error .broken
  | record :: records =>
    match checkRecord (some width) record.fields with
    | .error fault => .error (.record number record.left fault)
    | .ok texts =>
      match checkRecords complete width (number + 1) records with
      | .error stop => .error stop
      | .ok rest => .ok (texts :: rest)

section
variable {complete : Bool} {width number : Nat} {records : List RawRecord}

theorem readRecords_of_nil {mark : Nat} {input : Bytes} (h : recordStart mark input = [])
    (number : Nat) (width : Option Nat) :
    readRecords complete mark number width input
      = if complete then .ok [] else .error .broken := by
  rw [readRecords]
  split
  · rfl
  · next hcons => rw [h] at hcons; simp at hcons

theorem readRecords_of_cons {mark : Nat} {input tail : Bytes} {b : UInt8}
    (h : recordStart mark input = b :: tail) (number : Nat) (width : Option Nat) :
    readRecords complete mark number width input
      = let scanned := scan .start (b :: tail)
        if !scanned.closed && !complete then .error .broken
        else
          match checkRecord width (scanned.field :: scanned.more) with
          | .error fault => .error (.record number input fault)
          | .ok record =>
            match readRecords complete 0 (number + 1)
                (width.or (some (scanned.field :: scanned.more).length)) scanned.rest with
            | .error stop => .error stop
            | .ok records => .ok (record :: records) := by
  rw [readRecords]
  split
  · next hnil => rw [h] at hnil; simp at hnil
  · next hcons =>
    rw [h] at hcons
    obtain ⟨rfl, rfl⟩ := List.cons.inj hcons
    rfl

/-- Reading a text is looking at its records one after the other. -/
theorem readRecords_eq (complete : Bool) (mark number width : Nat) (input : Bytes) :
    readRecords complete mark number (some width) input
      = checkRecords complete width number (rawRecords complete mark input) := by
  fun_induction rawRecords complete mark input generalizing number with
  | case1 mark input hnil => rw [readRecords_of_nil hnil, checkRecords]
  | case2 mark input b tail hcons scanned hlost =>
    have hfails : complete = false := by
      rw [Bool.and_eq_true] at hlost
      simpa using hlost.2
    rw [readRecords_of_cons hcons]
    dsimp only
    rw [if_pos hlost, checkRecords, if_neg (by simp [hfails])]
  | case3 mark input b tail hcons scanned hkept ih =>
    rw [readRecords_of_cons hcons]
    dsimp only
    rw [if_neg hkept, checkRecords, Option.some_or, ih]

theorem checkRecord_none (fields : List Bytes) :
    checkRecord none fields = checkRecord (some fields.length) fields := by
  rw [checkRecord, checkRecord, if_pos rfl]

/-- The first record sets the width. -/
theorem readRecords_none (complete : Bool) (mark number : Nat) (input : Bytes) :
    readRecords complete mark number none input
      = checkRecords complete (widthOf (rawRecords complete mark input)) number
          (rawRecords complete mark input) := by
  rw [← readRecords_eq]
  cases hstart : recordStart mark input with
  | nil => rw [readRecords_of_nil hstart, readRecords_of_nil hstart]
  | cons b tail =>
    rw [readRecords_of_cons hstart, readRecords_of_cons hstart]
    dsimp only
    split_ifs with hlost
    · rfl
    · have hwidth : widthOf (rawRecords complete mark input)
          = ((scan .start (b :: tail)).field :: (scan .start (b :: tail)).more).length := by
        rw [rawRecords]
        split
        · next hnil => rw [hstart] at hnil; simp at hnil
        · next hcons =>
          rw [hstart] at hcons
          obtain ⟨rfl, rfl⟩ := List.cons.inj hcons
          dsimp only
          rw [if_neg hlost]
          rfl
      rw [hwidth, checkRecord_none, Option.none_or, Option.some_or]

/-! ### What reading comes to -/

theorem checkRecords_ok {texts : List (List String)}
    (h : List.Forall₂ (RawRecord.Reads width) records texts) :
    checkRecords true width number records = .ok texts := by
  induction h generalizing number with
  | nil => rfl
  | cons hfirst _ ih => rw [checkRecords, hfirst.checkRecord, ih]

theorem checkRecords_read {before after : List RawRecord}
    (hbefore : ∀ other ∈ before, ∃ texts, other.Reads width texts) {stop : Stop}
    (h : checkRecords complete width (number + before.length) after = .error stop) :
    checkRecords complete width number (before ++ after) = .error stop := by
  induction before generalizing number with
  | nil => exact h
  | cons other before ih =>
    obtain ⟨⟨texts, hother⟩, hrest⟩ := List.forall_mem_cons.1 hbefore
    rw [List.length_cons, Nat.add_comm before.length, ← Nat.add_assoc] at h
    rw [List.cons_append, checkRecords, hother.checkRecord, ih hrest h]

theorem FirstStop.checkRecords {stop : Stop} (h : FirstStop complete width number records stop) :
    checkRecords complete width number records = .error stop := by
  cases h with
  | record hrecords hbefore hfault =>
    rw [hrecords]
    refine checkRecords_read hbefore ?_
    rw [Csv.checkRecords, hfault.checkRecord]
  | broken hfails hrecords =>
    rw [← List.append_nil records]
    refine checkRecords_read hrecords ?_
    rw [Csv.checkRecords, if_neg (by simp [hfails])]

theorem records_cases (complete : Bool) (width number : Nat) (records : List RawRecord) :
    (complete = true ∧ ∃ texts, List.Forall₂ (RawRecord.Reads width) records texts) ∨
      ∃ stop, FirstStop complete width number records stop := by
  induction records generalizing number with
  | nil =>
    cases complete with
    | false => exact .inr ⟨_, .broken rfl (by simp)⟩
    | true => exact .inl ⟨rfl, [], .nil⟩
  | cons record records ih =>
    rcases record.cases width with ⟨texts, hreads⟩ | ⟨fault, hfault⟩
    · rcases ih (number + 1) with ⟨hcomplete, rest, hrest⟩ | ⟨stop, hstop⟩
      · exact .inl ⟨hcomplete, texts :: rest, .cons hreads hrest⟩
      · cases hstop with
        | record hrecords hbefore hfault =>
          exact .inr ⟨_, .record (congrArg (record :: ·) hrecords)
            (List.forall_mem_cons.2 ⟨⟨texts, hreads⟩, hbefore⟩) hfault⟩
        | broken hfails hrecords =>
          exact .inr ⟨_, .broken hfails (List.forall_mem_cons.2 ⟨⟨texts, hreads⟩, hrecords⟩)⟩
    · exact .inr ⟨_, .record (List.nil_append _).symm (by simp) hfault⟩

end

/-! ### Sources -/

@[simp] theorem Source.text_ofText (text : Bytes) (complete : Bool) :
    (ofText text complete).text = text := by
  rw [ofText]
  split_ifs with h
  · exact h.symm
  · simp [Source.text]

@[simp] theorem Source.first_ofText (text : Bytes) (complete : Bool) :
    (ofText text complete).first = text := by
  rw [ofText]
  split_ifs with h
  · exact h.symm
  · rfl

@[simp] theorem Source.complete_ofText (text : Bytes) (complete : Bool) :
    (ofText text complete).complete = complete := by
  rw [ofText]
  split_ifs <;> rfl

/-- The first fault of a source in the order of the stream. After a first read of the mark alone
nothing is looked at. -/
def FirstFault (source : Source) (fault : Fault) : Prop :=
  source.first ≠ byteOrderMark ∧ ∃ stop,
    FirstStop source.complete (widthOf source.delivered) 0 source.delivered stop ∧
      fault = stop.fault source.text

section
variable {source : Source}

theorem readAll_of_mark (h : source.first = byteOrderMark) : readAll source = .ok [] := by
  rw [readAll, if_pos h]

theorem readAll_eq (h : source.first ≠ byteOrderMark) :
    readAll source = (checkRecords source.complete (widthOf source.delivered) 0
      source.delivered).mapError (·.fault source.text) := by
  rw [readAll, if_neg h, readRecords_none, ← Source.delivered]
  cases checkRecords source.complete _ 0 source.delivered <;> rfl

/-- How reading a source ends: after the mark, with all records, or with the first fault. -/
theorem readAll_cases (source : Source) :
    (source.first = byteOrderMark ∧ readAll source = .ok []) ∨
    (∃ records, source.complete = true ∧
      List.Forall₂ (RawRecord.Reads (widthOf source.delivered)) source.delivered records ∧
      readAll source = .ok records) ∨
    ∃ fault, FirstFault source fault ∧ readAll source = .error fault := by
  by_cases hmark : source.first = byteOrderMark
  · exact .inl ⟨hmark, readAll_of_mark hmark⟩
  rw [readAll_eq hmark]
  rcases records_cases source.complete (widthOf source.delivered) 0 source.delivered with
    ⟨hcomplete, records, hrecords⟩ | ⟨stop, hstop⟩
  · refine .inr (.inl ⟨records, hcomplete, hrecords, ?_⟩)
    rw [hcomplete, checkRecords_ok hrecords]
    rfl
  · refine .inr (.inr ⟨_, ⟨hmark, stop, hstop, rfl⟩, ?_⟩)
    rw [hstop.checkRecords]
    rfl

/-- **A source is refused for its first fault.** -/
theorem readAll_eq_error_iff {fault : Fault} :
    readAll source = .error fault ↔ FirstFault source fault := by
  constructor
  · intro h
    rcases readAll_cases source with ⟨-, hread⟩ | ⟨records, -, -, hread⟩ | ⟨first, hfirst, hread⟩
    · rw [hread] at h
      simp at h
    · rw [hread] at h
      simp at h
    · rw [hread] at h
      exact Except.error.inj h ▸ hfirst
  · rintro ⟨hmark, stop, hstop, rfl⟩
    rw [readAll_eq hmark, hstop.checkRecords]
    rfl

theorem of_readAll_eq_ok {records : List (List String)} (hmark : source.first ≠ byteOrderMark)
    (h : readAll source = .ok records) :
    source.complete = true ∧
      List.Forall₂ (RawRecord.Reads (widthOf source.delivered)) source.delivered records := by
  rcases readAll_cases source with ⟨hfirst, -⟩ | ⟨texts, hcomplete, hrecords, hread⟩ |
    ⟨fault, -, hread⟩
  · exact absurd hfirst hmark
  · rw [hread] at h
    exact ⟨hcomplete, Except.ok.inj h ▸ hrecords⟩
  · rw [hread] at h
    simp at h

/-- A source is read as one without records if its first read is the mark alone, or if it ends and
delivers none. -/
theorem readAll_eq_nil_iff :
    readAll source = .ok [] ↔
      source.first = byteOrderMark ∨ source.complete = true ∧ source.delivered = [] := by
  by_cases hmark : source.first = byteOrderMark
  · exact ⟨fun _ => .inl hmark, fun _ => readAll_of_mark hmark⟩
  constructor
  · intro h
    obtain ⟨hcomplete, hrecords⟩ := of_readAll_eq_ok hmark h
    exact .inr ⟨hcomplete, List.forall₂_nil_right_iff.1 hrecords⟩
  · rintro (hfirst | ⟨hcomplete, hnone⟩)
    · exact absurd hfirst hmark
    · rw [readAll_eq hmark, hnone, hcomplete]
      rfl

end

end TableStore.Csv
