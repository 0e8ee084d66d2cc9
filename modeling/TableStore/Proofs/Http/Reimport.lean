import TableStore.Http.Service
import TableStore.Proofs.Csv.RoundTrip
import TableStore.Proofs.Query.Projection
import TableStore.Proofs.Store.Imports

/-!
# Results are tables again

The rows of a result are as wide as its columns, so that it can always be written as CSV. What is
written makes a table of the same columns and the same rows when it is imported, whatever texts they
hold. The one thing that is lost is a byte order mark at the very start of the text.
-/

namespace TableStore.Http

open Store FileSystem Query

variable {store : Store} {disk : FileSystem} {root : Path} {name : String}

theorem resultText_ok {statement : Statement} {result : QueryResult}
    (h : execute store disk statement = .ok result) : ∃ text, resultText result = .ok text :=
  Csv.writeAll_ok (execute_width h)

/-- **Every result can be written, and imported as the table that it is.** The import makes a table
under any name that is free, unless a file operation fails, and none does where the files of the
table can be written. -/
theorem result_reimported {statement : Statement} {result : QueryResult}
    (h : execute store disk statement = .ok result) :
    ∃ text, resultText result = .ok text ∧
      ∀ first rest, result.columns = first :: rest → first.toList.head? ≠ some '\uFEFF' →
        ∀ (target : Store) (fs : FileSystem) (root : Path) (name : String),
          target.root = some root → checkName name = .ok () → target.table? name = none →
          let outcome := target.importCsv fs name text true
          ((∃ loc, Ready fs root loc name) → outcome.result = .ok ()) ∧
            (outcome.result = .ok () ∨ ∃ e, outcome.result = .error (.file e)) ∧
            (outcome.result = .ok () →
              outcome.store.table? name = some ⟨name, result.columns⟩ ∧
              outcome.store.rows outcome.disk name = .ok result.rows) := by
  obtain ⟨text, htext⟩ := resultText_ok h
  refine ⟨text, htext, fun first rest hcolumns hmark target fs root name hroot hcheck hnew => ?_⟩
  have hread : Csv.readAll (.ofText text true) = .ok (result.columns :: result.rows) := by
    rw [resultText, hcolumns] at htext
    rw [hcolumns]
    exact Csv.readAll_writeAll htext hmark
  exact importFrom_of_readAll fs hroot hcheck hnew hread

/-- A column with an empty cell, and with one that holds a comma, quotes and a line end. -/
theorem result_reimported_quoted :
    let root : Path := ⟨["", "r"]⟩
    let store : Store := ⟨some root, Catalog.empty.insert ⟨"t", ["a", "b"]⟩⟩
    let disk := (((FileSystem.empty.put ["r"] .directory).put ["r", "data"] .directory).put
      ["r", "tmp"] .directory).put ["r", "data", "t"]
        (.file (Row.encodeAll [["", "1"], ["x,\"y\"\n", "2"]]))
    let result : QueryResult := ⟨["a"], [[""], ["x,\"y\"\n"]]⟩
    execute store disk ⟨[⟨"a"⟩], "t"⟩ = .ok result ∧ Ready disk root ["r"] "u" ∧
      checkName "u" = .ok () ∧ store.table? "u" = none ∧
      ∃ text, resultText result = .ok text ∧
        (store.importCsv disk "u" text true).result = .ok () ∧
        (store.importCsv disk "u" text true).store.table? "u" = some ⟨"u", ["a"]⟩ ∧
        (store.importCsv disk "u" text true).store.rows (store.importCsv disk "u" text true).disk "u"
          = .ok [[""], ["x,\"y\"\n"]] := by
  intro root store disk result
  have hready : ∀ name ∈ ["t", "u"], Ready disk root ["r"] name := by
    simp only [List.forall_mem_cons]
    refine ⟨⟨⟨?_, ?_, ?_, ?_, ?_⟩, ?_, ?_, ?_, ?_, ?_, 0, ?_, ?_⟩,
      ⟨⟨?_, ?_, ?_, ?_, ?_⟩, ?_, ?_, ?_, ?_, ?_, 0, ?_, ?_⟩, by simp⟩ <;> decide +kernel
  have hrows : store.rows disk "t" = .ok [["", "1"], ["x,\"y\"\n", "2"]] :=
    rows_of_read rfl rfl (by decide +kernel)
  have htable : store.table? "t" = some ⟨"t", ["a", "b"]⟩ := rfl
  have hresolve : Statement.resolve ⟨[⟨"a"⟩], "t"⟩ ⟨"t", ["a", "b"]⟩ = ["a"] := by decide
  have hresult : execute store disk ⟨[⟨"a"⟩], "t"⟩ = .ok result :=
    execute_eq htable hrows (by simp) hresolve (by simp)
  obtain ⟨text, htext, himport⟩ := result_reimported hresult
  obtain ⟨hdone, -, hmade⟩ := himport "a" [] rfl (by simp) store disk root "u" rfl rfl rfl
  have hok := hdone ⟨["r"], hready "u" (by simp)⟩
  exact ⟨hresult, hready "u" (by simp), rfl, rfl, text, htext, hok, hmade hok⟩

end TableStore.Http
