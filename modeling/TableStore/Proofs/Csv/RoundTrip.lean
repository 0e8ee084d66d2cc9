import TableStore.Csv.Writer
import TableStore.Proofs.Csv.Faults
import TableStore.Proofs.Text.Utf8

/-!
# Written CSV is read back

Records of one width are read back as they were written, whatever texts their fields are. A field
that holds a comma, a quote or a line end is quoted, and quotes in it are doubled; a record without
any octet is written as an empty quoted field, since an empty line would be no record. What is left
is a text that starts with a byte order mark, which belongs to no field.
-/

namespace TableStore.Csv

/-! ### Fields -/

/-- Puts octets before the rest of the current field. -/
def Scanned.prepend (octets : Bytes) (s : Scanned) : Scanned :=
  { s with field := octets ++ s.field }

theorem prepend_nil (s : Scanned) : s.prepend [] = s := rfl

theorem push_prepend (b : UInt8) (octets : Bytes) (s : Scanned) :
    (s.prepend octets).push b = s.prepend (b :: octets) := rfl

/-- What ends a field that is not open: a comma or a line feed. -/
def EndsField (tail : Bytes) : Prop :=
  ∃ b rest, tail = b :: rest ∧ (b = Ascii.comma ∨ b = Ascii.lineFeed)

theorem endsField_comma (rest : Bytes) : EndsField (Ascii.comma :: rest) :=
  ⟨_, _, rfl, .inl rfl⟩

theorem endsField_lineFeed (rest : Bytes) : EndsField (Ascii.lineFeed :: rest) :=
  ⟨_, _, rfl, .inr rfl⟩

theorem scan_comma {state : FieldState} (h : state ≠ .quoted) (rest : Bytes) :
    scan state (Ascii.comma :: rest) = (scan .start rest).next := by
  cases state with
  | quoted => exact absurd rfl h
  | _ => rfl

theorem scan_lineFeed {state : FieldState} (h : state ≠ .quoted) (rest : Bytes) :
    scan state (Ascii.lineFeed :: rest) = ⟨[], [], rest, true⟩ := by
  cases state with
  | quoted => exact absurd rfl h
  | _ => rfl

/-- The end of a field is the same however the field began. -/
theorem scan_endsField {state : FieldState} (h : state ≠ .quoted) {tail : Bytes}
    (htail : EndsField tail) : scan state tail = scan .start tail := by
  obtain ⟨b, rest, rfl, rfl | rfl⟩ := htail
  · rw [scan_comma h, scan_comma (by decide)]
  · rw [scan_lineFeed h, scan_lineFeed (by decide)]

theorem scan_ordinary {state : FieldState} (h : state ≠ .quoted) {b : UInt8}
    (hb : needsQuotes b = false) (rest : Bytes) :
    scan state (b :: rest) = (scan .plain rest).push b := by
  simp only [needsQuotes, Bool.or_eq_false_iff, decide_eq_false_iff_not] at hb
  obtain ⟨⟨⟨hcomma, hquote⟩, hfeed⟩, hreturn⟩ := hb
  rw [scan, if_neg h, if_neg (by simp [hquote]), if_neg (by simp [hquote]), if_neg hcomma,
    if_neg (by simp [isLineEnd, hfeed, hreturn])]

theorem scan_plain {octets : Bytes} (h : octets.any needsQuotes = false) {tail : Bytes}
    (htail : EndsField tail) {state : FieldState} (hstate : state ≠ .quoted) :
    scan state (octets ++ tail) = (scan .start tail).prepend octets := by
  induction octets generalizing state with
  | nil => rw [List.nil_append, scan_endsField hstate htail, prepend_nil]
  | cons b octets ih =>
    rw [List.any_cons, Bool.or_eq_false_iff] at h
    rw [List.cons_append, scan_ordinary hstate h.1, ih h.2 (by decide), push_prepend]

/-- Between quotes every octet stands for itself, and a doubled quote for one. -/
theorem scan_quoted (octets tail : Bytes) :
    scan .quoted (doubleQuotes octets ++ Ascii.quote :: tail)
      = (scan .closing tail).prepend octets := by
  induction octets with
  | nil => rfl
  | cons b octets ih =>
    rw [doubleQuotes]
    by_cases hb : b = Ascii.quote
    · subst hb
      rw [if_pos rfl, ← push_prepend, ← ih]
      rfl
    · rw [if_neg hb, List.cons_append, scan, if_pos rfl, if_neg hb, ih, push_prepend]

theorem scan_writeField (text : String) {tail : Bytes} (htail : EndsField tail) :
    scan .start (writeField text ++ tail) = (scan .start tail).prepend (Utf8.encode text) := by
  rw [writeField]
  split_ifs with hquotes
  · simp only [List.cons_append, List.append_assoc, List.nil_append]
    rw [show scan .start (Ascii.quote :: (doubleQuotes (Utf8.encode text) ++ Ascii.quote :: tail))
      = scan .quoted (doubleQuotes (Utf8.encode text) ++ Ascii.quote :: tail) from rfl,
      scan_quoted, scan_endsField (by decide) htail]
  · exact scan_plain (by simpa using hquotes) htail (by decide)

/-! ### Records -/

theorem joinFields_cons (field next : String) (fields : List String) :
    joinFields ((field :: next :: fields).map writeField)
      = writeField field ++ Ascii.comma :: joinFields ((next :: fields).map writeField) := rfl

theorem scan_joinFields (field : String) (fields : List String) (rest : Bytes) :
    scan .start (joinFields ((field :: fields).map writeField) ++ Ascii.lineFeed :: rest)
      = ⟨Utf8.encode field, fields.map Utf8.encode, rest, true⟩ := by
  induction fields generalizing field with
  | nil =>
    rw [List.map_singleton, joinFields, scan_writeField field (endsField_lineFeed rest),
      scan_lineFeed (by decide)]
    simp [Scanned.prepend]
  | cons next fields ih =>
    rw [joinFields_cons, List.append_assoc, List.cons_append,
      scan_writeField field (endsField_comma _), scan_comma (by decide), ih next]
    simp [Scanned.prepend, Scanned.next]

theorem writeField_eq_nil {text : String} (h : writeField text = []) : Utf8.encode text = [] := by
  rw [writeField] at h
  split_ifs at h
  · simp at h
  · exact h

theorem joinFields_eq_nil {field : String} {fields : List String}
    (h : joinFields ((field :: fields).map writeField) = []) :
    Utf8.encode field = [] ∧ fields = [] := by
  cases fields with
  | nil => exact ⟨writeField_eq_nil h, rfl⟩
  | cons next fields =>
    rw [joinFields_cons] at h
    simp at h

theorem scan_writeRecord (field : String) (fields : List String) (rest : Bytes) :
    scan .start (writeRecord (field :: fields) ++ rest)
      = ⟨Utf8.encode field, fields.map Utf8.encode, rest, true⟩ := by
  rw [writeRecord]
  split_ifs with hempty
  · obtain ⟨hfield, rfl⟩ := joinFields_eq_nil (List.isEmpty_iff.1 hempty)
    rw [hfield]
    rfl
  · rw [List.append_assoc]
    exact scan_joinFields field fields rest

/-! ### Beginnings -/

theorem head_writeField {text : String} {b : UInt8} {tail : Bytes} (h : writeField text = b :: tail) :
    isLineEnd b = false := by
  rw [writeField] at h
  split_ifs at h with hquotes
  · obtain ⟨rfl, -⟩ := List.cons.inj h
    decide
  · rw [h, List.any_cons, Bool.or_eq_true, not_or] at hquotes
    simp only [needsQuotes, Bool.or_eq_true, decide_eq_true_eq, not_or] at hquotes
    simp [isLineEnd, hquotes.1.1.2, hquotes.1.2]

theorem head_joinFields {field : String} {fields : List String} {b : UInt8} {tail : Bytes}
    (h : joinFields ((field :: fields).map writeField) = b :: tail) : isLineEnd b = false := by
  cases fields with
  | nil => exact head_writeField h
  | cons next fields =>
    rw [joinFields_cons] at h
    cases hfield : writeField field with
    | nil =>
      rw [hfield, List.nil_append] at h
      obtain ⟨rfl, -⟩ := List.cons.inj h
      decide
    | cons c rest =>
      rw [hfield, List.cons_append] at h
      obtain ⟨rfl, -⟩ := List.cons.inj h
      exact head_writeField hfield

theorem head_writeRecord (field : String) (fields : List String) :
    ∃ b tail, writeRecord (field :: fields) = b :: tail ∧ isLineEnd b = false := by
  rw [writeRecord]
  split_ifs with hempty
  · exact ⟨Ascii.quote, [Ascii.quote, Ascii.lineFeed], rfl, by decide⟩
  · cases hline : joinFields ((field :: fields).map writeField) with
    | nil => rw [hline] at hempty; simp at hempty
    | cons b tail => exact ⟨b, tail ++ [Ascii.lineFeed], rfl, head_joinFields hline⟩

/-! ### Texts -/

theorem decodeFields_encode (i : Nat) (record : List String) :
    decodeFields i (record.map Utf8.encode) = .ok record := by
  induction record generalizing i with
  | nil => rfl
  | cons field fields ih => rw [List.map_cons, decodeFields, Utf8.decode_encode, ih (i + 1)]

theorem checkRecord_encode {width : Option Nat} {record : List String}
    (h : ∀ expected, width = some expected → record.length = expected) :
    checkRecord width (record.map Utf8.encode) = .ok record := by
  cases width with
  | none => exact decodeFields_encode 0 record
  | some expected =>
    rw [checkRecord, if_pos (by rw [List.length_map]; exact h expected rfl)]
    exact decodeFields_encode 0 record

theorem recordStart_writeRecord (field : String) (fields : List String) (rest : Bytes) :
    recordStart 0 (writeRecord (field :: fields) ++ rest)
      = writeRecord (field :: fields) ++ rest := by
  obtain ⟨b, tail, hrecord, hb⟩ := head_writeRecord field fields
  rw [recordStart, List.drop_zero, hrecord, List.cons_append,
    List.dropWhile_cons_of_neg (by rw [hb]; decide)]

theorem readRecords_writeRecord {number : Nat} {width : Option Nat} (field : String)
    (fields : List String) (rest : Bytes)
    (hwidth : ∀ expected, width = some expected → (field :: fields).length = expected) :
    readRecords true 0 number width (writeRecord (field :: fields) ++ rest)
      = match readRecords true 0 (number + 1) (some (field :: fields).length) rest with
        | .error stop => .error stop
        | .ok records => .ok ((field :: fields) :: records) := by
  have hstart := recordStart_writeRecord field fields rest
  have hscan := scan_writeRecord field fields rest
  obtain ⟨b, tail, hrecord, -⟩ := head_writeRecord field fields
  rw [hrecord, List.cons_append] at hstart hscan ⊢
  have hwidth' : width.or (some (field :: fields).length) = some (field :: fields).length := by
    cases width with
    | none => rfl
    | some expected => rw [hwidth expected rfl]; rfl
  have hfields : Utf8.encode field :: fields.map Utf8.encode = (field :: fields).map Utf8.encode :=
    rfl
  rw [readRecords_of_cons hstart, hscan]
  dsimp only
  rw [hfields, checkRecord_encode hwidth, List.length_map, hwidth']
  rfl

theorem readRecords_nil (number : Nat) (width : Option Nat) :
    readRecords true 0 number width [] = .ok [] :=
  readRecords_of_nil rfl number width

theorem writeRecords_cons {width : Nat} {record : List String} {records : List (List String)}
    {text : Bytes} (h : writeRecords width (record :: records) = .ok text) :
    record.length = width ∧
      ∃ rest, writeRecords width records = .ok rest ∧ text = writeRecord record ++ rest := by
  rw [writeRecords] at h
  split_ifs at h with hlength
  cases hrest : writeRecords width records with
  | error fault => rw [hrest] at h; simp at h
  | ok rest =>
    rw [hrest] at h
    exact ⟨hlength, rest, rfl, (Except.ok.inj h).symm⟩

/-- Records after the first one. -/
theorem readRecords_writeRecords {width : Nat} (hpos : 0 < width) {number : Nat}
    {records : List (List String)} {text : Bytes} (h : writeRecords width records = .ok text) :
    readRecords true 0 number (some width) text = .ok records := by
  induction records generalizing number text with
  | nil =>
    obtain rfl := Except.ok.inj h
    exact readRecords_nil number (some width)
  | cons record records ih =>
    obtain ⟨rfl, rest, hrest, rfl⟩ := writeRecords_cons h
    cases record with
    | nil => simp at hpos
    | cons field fields =>
      rw [readRecords_writeRecord field fields rest (fun expected h => Option.some.inj h),
        ih hrest]

theorem writeAll_ok {header : List String} {rows : List (List String)}
    (h : ∀ row ∈ rows, row.length = header.length) :
    ∃ text, writeAll (header :: rows) = .ok text := by
  have hrows : ∃ text, writeRecords header.length rows = .ok text := by
    induction rows with
    | nil => exact ⟨[], rfl⟩
    | cons row rows ih =>
      obtain ⟨hrow, hrest⟩ := List.forall_mem_cons.1 h
      obtain ⟨text, htext⟩ := ih hrest
      exact ⟨_, by rw [writeRecords, if_pos hrow, htext]⟩
  obtain ⟨text, htext⟩ := hrows
  refine ⟨writeRecord header ++ text, ?_⟩
  rw [writeAll, List.head?_cons, Option.getD_some, writeRecords, if_pos rfl, htext]

/-! ### The mark -/

/-- A line starts with its first field, up to a comma or the line feed. -/
theorem line_cons (field : String) (fields : List String) :
    ∃ b rest, joinFields ((field :: fields).map writeField) ++ [Ascii.lineFeed]
        = writeField field ++ b :: rest ∧ (b = Ascii.comma ∨ b = Ascii.lineFeed) := by
  cases fields with
  | nil => exact ⟨Ascii.lineFeed, [], rfl, .inr rfl⟩
  | cons next fields =>
    refine ⟨Ascii.comma, joinFields ((next :: fields).map writeField) ++ [Ascii.lineFeed], ?_, .inl rfl⟩
    rw [joinFields_cons, List.append_assoc, List.cons_append]

theorem head_mark {c : Char} {cs : List Char} {octets rest : Bytes}
    (h : Utf8.encodeChars (c :: cs) ++ octets = byteOrderMark ++ rest) : c = '\uFEFF' := by
  obtain ⟨b, tail, hchar, hhead⟩ := Utf8.head_encodeChar c (Utf8.encodeChars cs ++ octets)
  rw [Utf8.encodeChars, List.flatMap_cons, hchar, byteOrderMark, List.append_assoc,
    List.cons_append, List.cons_append] at h
  obtain ⟨rfl, htail⟩ := List.cons.inj h
  change tail ++ (Utf8.encodeChars cs ++ octets) = _ at htail
  rw [htail] at hhead
  exact (Utf8.Head.char.inj hhead).1.symm

/-- A record is written with a byte order mark first only if its first field starts with one. -/
theorem head_of_mark {field : String} {fields : List String} {rest : Bytes}
    (h : byteOrderMark <+: writeRecord (field :: fields) ++ rest) :
    field.toList.head? = some '\uFEFF' := by
  have hfirst : ∀ {b : UInt8} {octets : Bytes}, byteOrderMark <+: b :: octets → b = 0xEF := by
    rintro b octets ⟨t, ht⟩
    exact (List.cons.inj ht).1.symm
  rw [writeRecord] at h
  split_ifs at h with hempty
  · exact absurd (hfirst h) (by decide)
  · obtain ⟨b, octets, hline, hb⟩ := line_cons field fields
    rw [hline, writeField] at h
    split_ifs at h with hquotes
    · exact absurd (hfirst h) (by decide)
    · rw [Utf8.encode] at h
      cases hfield : field.toList with
      | nil =>
        rw [hfield] at h
        have hmark := hfirst h
        rcases hb with rfl | rfl <;> exact absurd hmark (by decide)
      | cons c cs =>
        rw [hfield, List.append_assoc] at h
        obtain ⟨t, ht⟩ := h
        rw [head_mark ht.symm, List.head?_cons]

/-- **A written table is read back**, unless its first field starts with a byte order mark. -/
theorem readAll_writeAll {field : String} {fields : List String} {rows : List (List String)}
    {text : Bytes} (h : writeAll ((field :: fields) :: rows) = .ok text)
    (hmark : field.toList.head? ≠ some '\uFEFF') :
    readAll (.ofText text true) = .ok ((field :: fields) :: rows) := by
  rw [writeAll, List.head?_cons, Option.getD_some] at h
  obtain ⟨-, rest, hrest, rfl⟩ := writeRecords_cons h
  have hprefix : ¬ byteOrderMark <+: writeRecord (field :: fields) ++ rest := mt head_of_mark hmark
  have hne : writeRecord (field :: fields) ++ rest ≠ byteOrderMark := by
    intro heq
    exact hprefix (heq ▸ List.prefix_rfl)
  have hrows : readRecords true 0 1 (some (fields.length + 1)) rest = .ok rows :=
    readRecords_writeRecords (Nat.succ_pos fields.length) hrest
  rw [readAll, Source.markSize]
  simp only [Source.first_ofText, Source.text_ofText, Source.complete_ofText]
  rw [if_neg hne, if_neg (mt List.isPrefixOf_iff_prefix.1 hprefix),
    readRecords_writeRecord field fields rest (by simp)]
  rw [show (0 + 1 : Nat) = 1 from rfl, List.length_cons, hrows]

end TableStore.Csv
