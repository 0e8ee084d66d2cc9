import Mathlib
import TableStore.Catalog

/-!
# Catalogs as maps

A catalog is known by what `find?` gives: at most one table for each name, and two catalogs that
find the same are the same. Adding, removing and listing tables are stated through `find?`.
-/

namespace TableStore.Catalog

/-! ### Finding -/

theorem nodup_names (catalog : Catalog) : catalog.names.Nodup := by
  rw [names, List.Nodup, List.pairwise_map]
  exact catalog.sorted.imp fun h => ne_of_lt h

/-- In tables of different names, the one found under a name is the one that has it. -/
theorem find?_eq_some_iff_of_nodup {tables : List Table} (hnodup : (tables.map Table.name).Nodup)
    {name : String} {table : Table} :
    tables.find? (·.name = name) = some table ↔ table ∈ tables ∧ table.name = name := by
  constructor
  · intro h
    exact ⟨List.mem_of_find?_eq_some h, by simpa using List.find?_some h⟩
  · rintro ⟨hmem, rfl⟩
    obtain ⟨found, hfound⟩ : ∃ found, tables.find? (·.name = table.name) = some found :=
      Option.isSome_iff_exists.1 (List.find?_isSome.2 ⟨table, hmem, by simp⟩)
    have hname : found.name = table.name := by simpa using List.find?_some hfound
    rw [hfound, List.inj_on_of_nodup_map hnodup (List.mem_of_find?_eq_some hfound) hmem hname]

theorem find?_eq_some_iff {catalog : Catalog} {name : String} {table : Table} :
    catalog.find? name = some table ↔ table ∈ catalog.tables ∧ table.name = name :=
  find?_eq_some_iff_of_nodup catalog.nodup_names

theorem find?_eq_none_iff {catalog : Catalog} {name : String} :
    catalog.find? name = none ↔ ∀ table ∈ catalog.tables, table.name ≠ name := by
  simp [find?]

/-- A catalog is what it finds. -/
theorem ext_find? {a b : Catalog} (h : ∀ name, a.find? name = b.find? name) : a = b := by
  have hmem : ∀ table, table ∈ a.tables ↔ table ∈ b.tables := by
    intro table
    have ha : a.find? table.name = some table ↔ table ∈ a.tables ∧ table.name = table.name :=
      find?_eq_some_iff
    rw [h table.name, find?_eq_some_iff] at ha
    simpa using ha.symm
  have hirrefl : Std.Irrefl fun s t : Table => s.name < t.name := ⟨fun t => lt_irrefl t.name⟩
  have hasymm : Std.Asymm fun s t : Table => s.name < t.name := ⟨fun _ _ => lt_asymm⟩
  have htables : a.tables = b.tables := a.sorted.eq_of_mem_iff b.sorted hmem
  cases a
  cases b
  simpa using htables

theorem find?_empty (name : String) : empty.find? name = none := rfl

/-! ### Changing -/

theorem mem_insertInto_iff {table t : Table} {tables : List Table}
    (h : tables.Pairwise fun a b => a.name < b.name) :
    t ∈ insertInto table tables ↔ t = table ∨ t ∈ tables ∧ t.name ≠ table.name := by
  induction tables with
  | nil => simp [insertInto]
  | cons other others ih =>
    obtain ⟨hother, hothers⟩ := List.pairwise_cons.1 h
    rw [insertInto]
    split_ifs with hlt heq
    · have hne : ∀ u ∈ other :: others, u.name ≠ table.name := by
        intro u hu
        rcases List.mem_cons.1 hu with rfl | hu
        · exact (ne_of_lt hlt).symm
        · exact (ne_of_lt (lt_trans hlt (hother u hu))).symm
      rw [List.mem_cons]
      exact or_congr_right ⟨fun hu => ⟨hu, hne t hu⟩, And.left⟩
    · have hne : ∀ u ∈ others, u.name ≠ table.name := fun u hu =>
        heq ▸ (ne_of_lt (hother u hu)).symm
      rw [List.mem_cons, List.mem_cons]
      refine or_congr_right ⟨fun hu => ⟨.inr hu, hne t hu⟩, ?_⟩
      rintro ⟨rfl | hu, hname⟩
      · exact absurd heq.symm hname
      · exact hu
    · rw [List.mem_cons, ih hothers, List.mem_cons]
      constructor
      · rintro (rfl | rfl | ⟨hu, hname⟩)
        · exact .inr ⟨.inl rfl, Ne.symm heq⟩
        · exact .inl rfl
        · exact .inr ⟨.inr hu, hname⟩
      · rintro (rfl | ⟨rfl | hu, hname⟩)
        · exact .inr (.inl rfl)
        · exact .inl rfl
        · exact .inr (.inr ⟨hu, hname⟩)

theorem mem_insert {catalog : Catalog} {table t : Table} :
    t ∈ (catalog.insert table).tables ↔ t = table ∨ t ∈ catalog.tables ∧ t.name ≠ table.name :=
  mem_insertInto_iff catalog.sorted

theorem mem_erase {catalog : Catalog} {name : String} {t : Table} :
    t ∈ (catalog.erase name).tables ↔ t ∈ catalog.tables ∧ t.name ≠ name := by
  simp [erase]

theorem find?_insert (catalog : Catalog) (table : Table) (name : String) :
    (catalog.insert table).find? name
      = if table.name = name then some table else catalog.find? name := by
  split_ifs with hname
  · exact find?_eq_some_iff.2 ⟨mem_insert.2 (.inl rfl), hname⟩
  · ext t
    rw [find?_eq_some_iff, find?_eq_some_iff, mem_insert]
    constructor
    · rintro ⟨rfl | ⟨hmem, -⟩, rfl⟩
      · exact absurd rfl hname
      · exact ⟨hmem, rfl⟩
    · rintro ⟨hmem, rfl⟩
      exact ⟨.inr ⟨hmem, Ne.symm hname⟩, rfl⟩

theorem find?_erase (catalog : Catalog) (erased name : String) :
    (catalog.erase erased).find? name = if erased = name then none else catalog.find? name := by
  split_ifs with hname
  · rw [find?_eq_none_iff]
    intro t ht
    exact hname ▸ (mem_erase.1 ht).2
  · ext t
    rw [find?_eq_some_iff, find?_eq_some_iff, mem_erase]
    constructor
    · rintro ⟨⟨hmem, -⟩, rfl⟩
      exact ⟨hmem, rfl⟩
    · rintro ⟨hmem, rfl⟩
      exact ⟨⟨hmem, Ne.symm hname⟩, rfl⟩

/-! ### Lists of tables -/

theorem find?_foldl_insert (tables : List Table) (catalog : Catalog) (name : String) :
    (tables.foldl insert catalog).find? name
      = (tables.reverse.find? (·.name = name)).or (catalog.find? name) := by
  induction tables generalizing catalog with
  | nil => simp
  | cons table tables ih =>
    rw [List.foldl_cons, ih, List.reverse_cons, List.find?_append, Option.or_assoc, find?_insert]
    by_cases hname : table.name = name <;> simp [hname]

/-- Of several tables with one name the last one counts. -/
theorem find?_ofList (tables : List Table) (name : String) :
    (ofList tables).find? name = tables.reverse.find? (·.name = name) := by
  rw [ofList, find?_foldl_insert, find?_empty, Option.or_none]

theorem find?_ofList_eq_some_iff {tables : List Table} {name : String} {table : Table} :
    (ofList tables).find? name = some table ↔
      table.name = name ∧ ∃ before after, tables = before ++ table :: after ∧
        ∀ later ∈ after, later.name ≠ name := by
  rw [find?_ofList, List.find?_eq_some_iff_append, decide_eq_true_iff]
  refine and_congr_right fun _ => ⟨?_, ?_⟩
  · rintro ⟨after, before, hreverse, hafter⟩
    refine ⟨before.reverse, after.reverse, ?_, by simpa using hafter⟩
    rw [← List.reverse_inj, hreverse]
    simp
  · rintro ⟨before, after, rfl, hafter⟩
    exact ⟨after.reverse, before.reverse, by simp, by simpa using hafter⟩

/-- The catalog of its own tables. -/
theorem ofList_tables (catalog : Catalog) : ofList catalog.tables = catalog := by
  refine ext_find? fun name => ?_
  have hnodup : (catalog.tables.reverse.map Table.name).Nodup := by
    rw [List.map_reverse]
    exact List.nodup_reverse.2 catalog.nodup_names
  ext t
  rw [find?_ofList, find?_eq_some_iff_of_nodup hnodup, find?_eq_some_iff, List.mem_reverse]

end TableStore.Catalog
