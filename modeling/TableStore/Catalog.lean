import TableStore.Table

/-!
# Catalogs

The tables that are known, one for each name, in the order of their names.
-/

namespace TableStore

/-- Tables in strictly increasing order of their names, which is that of their octets. -/
structure Catalog where
  tables : List Table
  sorted : tables.Pairwise fun a b => a.name < b.name

namespace Catalog

def empty : Catalog := ⟨[], .nil⟩

def find? (catalog : Catalog) (name : String) : Option Table :=
  catalog.tables.find? (·.name = name)

def names (catalog : Catalog) : List String :=
  catalog.tables.map Table.name

/-- Puts a table at its place, instead of one with the same name. -/
def insertInto (table : Table) : List Table → List Table
  | [] => [table]
  | other :: others =>
    if table.name < other.name then table :: other :: others
    else if table.name = other.name then table :: others
    else other :: insertInto table others

theorem mem_insertInto {table t : Table} {tables : List Table} (h : t ∈ insertInto table tables) :
    t = table ∨ t ∈ tables := by
  induction tables with
  | nil => simpa [insertInto] using h
  | cons other others ih =>
    unfold insertInto at h
    split at h
    · simpa using h
    · split at h
      · simp only [List.mem_cons] at h ⊢
        exact h.imp_right .inr
      · simp only [List.mem_cons] at h ⊢
        rcases h with h | h
        · exact .inr (.inl h)
        · exact (ih h).imp_right .inr

theorem pairwise_insertInto {table : Table} {tables : List Table}
    (h : tables.Pairwise fun a b => a.name < b.name) :
    (insertInto table tables).Pairwise fun a b => a.name < b.name := by
  induction tables with
  | nil => simp [insertInto]
  | cons other others ih =>
    have ⟨hother, hothers⟩ := List.pairwise_cons.1 h
    unfold insertInto
    split
    · next hlt =>
      refine List.pairwise_cons.2 ⟨fun t ht => ?_, h⟩
      rcases List.mem_cons.1 ht with rfl | ht
      · exact hlt
      · exact String.lt_trans hlt (hother t ht)
    · split
      · next heq => exact List.pairwise_cons.2 ⟨fun t ht => heq ▸ hother t ht, hothers⟩
      · next hlt hne =>
        refine List.pairwise_cons.2 ⟨fun t ht => ?_, ih hothers⟩
        rcases mem_insertInto ht with rfl | ht
        · exact Decidable.byContradiction fun hge =>
            hne (String.le_antisymm (String.not_lt.1 hge) (String.not_lt.1 hlt))
        · exact hother t ht

/-- Adds a table, instead of one with the same name. -/
def insert (catalog : Catalog) (table : Table) : Catalog :=
  ⟨insertInto table catalog.tables, pairwise_insertInto catalog.sorted⟩

def erase (catalog : Catalog) (name : String) : Catalog :=
  ⟨catalog.tables.filter (·.name ≠ name), catalog.sorted.filter _⟩

/-- The catalog of a list of tables; of several with one name, the last one counts. -/
def ofList (tables : List Table) : Catalog :=
  tables.foldl insert empty

end Catalog

end TableStore
