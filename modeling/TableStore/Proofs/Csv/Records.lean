import Mathlib.Tactic.SplitIfs
import TableStore.Csv.Reader

/-!
# Records that are read are of one width

Whatever text is read, its records all have the number of fields of the first one, and that is at
least one.
-/

namespace TableStore.Csv

theorem decodeFields_length {i : Nat} {fields : List Bytes} {texts : List String}
    (h : decodeFields i fields = .ok texts) : texts.length = fields.length := by
  induction fields generalizing i texts with
  | nil =>
    obtain rfl := Except.ok.inj h
    rfl
  | cons field fields ih =>
    rw [decodeFields] at h
    cases hfield : Utf8.decode field with
    | error fault => rw [hfield] at h; simp at h
    | ok text =>
      cases hrest : decodeFields (i + 1) fields with
      | error fault => rw [hfield, hrest] at h; simp at h
      | ok rest =>
        rw [hfield, hrest] at h
        obtain rfl := Except.ok.inj h
        rw [List.length_cons, List.length_cons, ih hrest]

theorem checkRecord_length {width : Option Nat} {fields : List Bytes} {record : List String}
    (h : checkRecord width fields = .ok record) :
    record.length = fields.length ∧ ∀ expected, width = some expected → fields.length = expected := by
  cases width with
  | none => exact ⟨decodeFields_length h, fun _ hnone => nomatch hnone⟩
  | some expected =>
    rw [checkRecord] at h
    split_ifs at h with hlength
    exact ⟨decodeFields_length h, fun _ hsome => Option.some.inj hsome ▸ hlength⟩

/-- A record is as wide as the text asks for, and the text asks for no other width after it. -/
theorem readRecords_width {complete : Bool} {mark number : Nat} {width : Option Nat} {input : Bytes}
    {records : List (List String)} (h : readRecords complete mark number width input = .ok records) :
    (∀ record ∈ records, record ≠ [] ∧ ∀ expected, width = some expected → record.length = expected) ∧
      ∀ header rows, records = header :: rows → ∀ row ∈ rows, row.length = header.length := by
  fun_induction readRecords complete mark number width input generalizing records with
  | case1 =>
    obtain rfl := Except.ok.inj h
    simp
  | case2 | case3 | case4 | case5 => simp at h
  | case6 mark number width input b tail hstart scanned hclosed fields record hrecord rest hrest =>
    rename_i ih
    obtain rfl := Except.ok.inj h
    obtain ⟨hlength, hexpected⟩ := checkRecord_length hrecord
    have hnext : width.or (some fields.length) = some record.length := by
      cases width with
      | none => rw [hlength]; rfl
      | some expected => rw [hlength, hexpected expected rfl]; rfl
    have hrows : ∀ row ∈ rest, row ≠ [] ∧ row.length = record.length := fun row hrow =>
      ⟨((ih hrest).1 row hrow).1, ((ih hrest).1 row hrow).2 _ hnext⟩
    have hne : record ≠ [] := by
      rintro rfl
      simp [fields] at hlength
    refine ⟨?_, ?_⟩
    · rintro row hrow
      rcases List.mem_cons.1 hrow with rfl | hrow
      · exact ⟨hne, fun expected hwidth => hlength.trans (hexpected expected hwidth)⟩
      · refine ⟨(hrows row hrow).1, fun expected hwidth => ?_⟩
        rw [(hrows row hrow).2, hlength, hexpected expected hwidth]
    · rintro header rows heq row hrow
      obtain ⟨rfl, rfl⟩ := List.cons.inj heq
      exact (hrows row hrow).2

/-- **A text that is read is a table**: its header has a column, and its rows are as wide as it. -/
theorem readAll_width {source : Source} {header : List String} {rows : List (List String)}
    (h : readAll source = .ok (header :: rows)) :
    header ≠ [] ∧ ∀ row ∈ rows, row.length = header.length := by
  rw [readAll] at h
  split_ifs at h with hmark
  · simp at h
  cases hread : readRecords source.complete source.markSize 0 none source.text with
  | error stop => rw [hread] at h; simp at h
  | ok records =>
    rw [hread] at h
    obtain rfl := Except.ok.inj h
    obtain ⟨hrecords, hrows⟩ := readRecords_width hread
    exact ⟨(hrecords header List.mem_cons_self).1, hrows header rows rfl⟩

end TableStore.Csv
