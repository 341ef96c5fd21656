import PamMvp.RowCodecs

/-!
# Tables with a text primary key

A repository keeps its objects in a table whose first column is the primary key. The
rows of a table that was filled by its own repository are the written rows of the
stored objects, in the order of the stores; a query for a text in some column selects
the rows of exactly the objects that have this text.
-/
namespace PamMvp.KeyedTables
open PythonText DomainModel SqliteValues SqliteParameters RowCodecs

abbrev Row : Type := List SqlValue

/-- How a repository writes and reads one kind of objects, and how it fails. -/
structure TableAdapter (α : Type) where
  serialize : α → Except PyExn (List PyValue)
  deserialize : List PyValue → Except PyExn α
  malformed : PyExn
  exact : DecodesExactly serialize deserialize malformed
  duplicate : PyExn
  notStored : PyExn
  notLoaded : PyExn

variable {α : Type}

namespace TableAdapter

/-- The `INSERT`; the only constraint that a row of texts and integers can break is
the primary key. -/
def insert (A : TableAdapter α) (rows : List Row) (row : Row) : Except PyExn (List Row) :=
  if rows.any fun r => r[0]? = row[0]? then .error A.duplicate else .ok (rows ++ [row])

/-- `store`. A database that is not `available` fails with a `sqlite3.Error`. -/
def store (A : TableAdapter α) (available : Bool) (rows : List Row) (a : α) :
    Except PyExn (List Row) := do
  let parameters ← A.serialize a
  if !available then .error A.notStored
  else A.insert rows (← parameters.mapM bindParameter)

/-- `SELECT ... WHERE column = ?`, with the rows as they are stored. -/
def select (column : ℕ) (text : PyStr) (rows : List Row) : Except PyExn (List Row) := do
  let value ← bindParameter (.str text)
  return rows.filter fun row => row[column]? = some value

/-- A text that is no UTF-8 is an `OperationalError`. -/
def fetch (A : TableAdapter α) (row : Row) : Except PyExn (List PyValue) :=
  (fetchTuple row).mapError fun _ => A.notLoaded

/-- The column holds this text of the object. -/
def HasColumn (A : TableAdapter α) (column : ℕ) (text : α → PyStr) : Prop :=
  ∀ a row, A.serialize a = .ok row → row[column]? = some (.str (text a))

/-- The row is written for the object. -/
def Writes (A : TableAdapter α) (a : α) (row : Row) : Prop := write A.serialize a = .ok row

/-- The table holds exactly these objects, under different keys. -/
structure Holds (A : TableAdapter α) (key : α → PyStr) (objects : List α) (rows : List Row) :
    Prop where
  written : List.Forall₂ A.Writes objects rows
  keys : (objects.map key).Nodup

section

variable {A : TableAdapter α} {column : ℕ} {text : α → PyStr} {a : α} {row : Row}

theorem writes_column (hcolumn : A.HasColumn column text) (h : A.Writes a row) :
    encodable (text a) = true ∧ row[column]? = some (.text (utf8 (text a))) := by
  simp only [Writes, write, except_bind_ok_iff, mapM_bindParameter_ok_iff] at h
  obtain ⟨values, hserialize, hall, rfl⟩ := h
  have hvalue := hcolumn a values hserialize
  refine ⟨(hall _ (List.mem_of_getElem? hvalue)).2, ?_⟩
  rw [List.getElem?_map, hvalue]
  rfl

theorem writes_column_iff (hcolumn : A.HasColumn column text) (h : A.Writes a row) {s : PyStr}
    (hs : encodable s = true) : row[column]? = some (.text (utf8 s)) ↔ text a = s := by
  obtain ⟨hencodes, hvalue⟩ := writes_column hcolumn h
  rw [hvalue, Option.some.injEq, SqlValue.text.injEq]
  exact ⟨utf8_injective hencodes hs, fun heq => by rw [heq]⟩

theorem store_ok_iff {available : Bool} {rows rows' : List Row} :
    A.store available rows a = .ok rows' ↔
      available = true ∧ ∃ row, A.Writes a row ∧ (∀ r ∈ rows, r[0]? ≠ row[0]?) ∧
        rows' = rows ++ [row] := by
  simp only [store, Writes, write, except_bind_ok_iff]
  constructor
  · intro h
    obtain ⟨values, hserialize, h⟩ := h
    split_ifs at h with havailable
    obtain ⟨row, hrow, h⟩ := (except_bind_ok_iff _ _ _).mp h
    unfold insert at h
    split_ifs at h with hany
    cases h
    refine ⟨by simpa using havailable, row, ⟨values, hserialize, hrow⟩, fun r hr heq => ?_, rfl⟩
    exact hany (List.any_eq_true.mpr ⟨r, hr, by simp [heq]⟩)
  · intro h
    obtain ⟨rfl, row, ⟨values, hserialize, hrow⟩, hfresh, rfl⟩ := h
    refine ⟨values, hserialize, ?_⟩
    rw [if_neg (by simp), except_bind_ok_iff]
    refine ⟨row, hrow, ?_⟩
    unfold insert
    rw [if_neg]
    intro hany
    obtain ⟨r, hr, heq⟩ := List.any_eq_true.mp hany
    exact hfresh r hr (by simpa using heq)

/-- Every object that is held has its row. -/
theorem exists_written {objects : List α} {rows : List Row}
    (h : List.Forall₂ A.Writes objects rows) (ha : a ∈ objects) : ∃ r ∈ rows, A.Writes a r := by
  induction h with
  | nil => cases ha
  | @cons b row objects rows hwrites hrest ih =>
    rcases List.mem_cons.mp ha with rfl | ha
    · exact ⟨row, List.mem_cons_self .., hwrites⟩
    · obtain ⟨r, hr, hwritten⟩ := ih ha
      exact ⟨r, List.mem_cons_of_mem row hr, hwritten⟩

/-- Every row that is held has its object. -/
theorem exists_object {objects : List α} {rows : List Row}
    (h : List.Forall₂ A.Writes objects rows) (hrow : row ∈ rows) : ∃ a, A.Writes a row := by
  induction h with
  | nil => cases hrow
  | cons hwrites hrest ih =>
    rcases List.mem_cons.mp hrow with rfl | hrow
    · exact ⟨_, hwrites⟩
    · exact ih hrow

theorem Holds.nil (key : α → PyStr) : A.Holds key [] [] := ⟨.nil, List.nodup_nil⟩

/-- A store that succeeds adds its object, under a new key. -/
theorem Holds.store {key : α → PyStr} {objects : List α} {rows rows' : List Row}
    {available : Bool} (h : A.Holds key objects rows) (hkey : A.HasColumn 0 key)
    (hstore : A.store available rows a = .ok rows') : A.Holds key (objects ++ [a]) rows' := by
  obtain ⟨-, row, hwrites, hfresh, rfl⟩ := store_ok_iff.mp hstore
  refine ⟨List.rel_append h.written (.cons hwrites .nil), ?_⟩
  rw [List.map_append, List.map_singleton]
  refine List.Nodup.append h.keys (List.nodup_singleton _) ?_
  rw [List.disjoint_singleton]
  intro hmem
  obtain ⟨b, hb, hsame⟩ := List.mem_map.mp hmem
  obtain ⟨r, hr, hwritten⟩ := exists_written h.written hb
  refine hfresh r hr ?_
  rw [(writes_column hkey hwritten).2, (writes_column hkey hwrites).2, hsame]

/-- A query selects the rows of the objects that have the text. -/
theorem Holds.select {key : α → PyStr} {objects : List α} {rows : List Row}
    (h : A.Holds key objects rows) (hcolumn : A.HasColumn column text) {s : PyStr}
    (hs : encodable s = true) : ∃ selected, TableAdapter.select column s rows = .ok selected ∧
      List.Forall₂ A.Writes (objects.filter (text · = s)) selected := by
  refine ⟨rows.filter fun row => row[column]? = some (.text (utf8 s)), ?_, ?_⟩
  · simp only [TableAdapter.select, bindParameter_str, hs, if_true]
    rfl
  · have hwritten := h.written
    clear h
    induction hwritten with
    | nil => exact .nil
    | @cons a row objects rows hwrites hrest ih =>
      by_cases heq : text a = s
      · rw [List.filter_cons_of_pos (by simpa using heq), List.filter_cons_of_pos
          (by simpa using (writes_column_iff hcolumn hwrites hs).mpr heq)]
        exact .cons hwrites ih
      · rw [List.filter_cons_of_neg (by simpa using heq), List.filter_cons_of_neg
          (by simpa using fun hr => heq ((writes_column_iff hcolumn hwrites hs).mp hr))]
        exact ih

theorem select_unencodable {rows : List Row} {s : PyStr} (hs : encodable s = false) :
    TableAdapter.select column s rows = .error (bindExn .unicodeEncode) := by
  simp only [TableAdapter.select, bindParameter_str, hs]
  rfl

/-- A written row is fetched and read as its object. -/
theorem Writes.load (h : A.Writes a row) :
    ∃ values, A.fetch row = .ok values ∧ A.deserialize values = .ok a := by
  obtain ⟨values, hfetch, hread⟩ := A.exact.load h
  exact ⟨values, by rw [fetch, hfetch]; rfl, hread⟩

/-- Written rows are fetched together. -/
theorem fetch_all {rows : List Row} (h : ∀ row ∈ rows, ∃ a, A.Writes a row) :
    ∃ tuples, rows.mapM A.fetch = .ok tuples ∧ tuples.length = rows.length := by
  induction rows with
  | nil => exact ⟨[], rfl, rfl⟩
  | cons row rows ih =>
    obtain ⟨a, hwrites⟩ := h row (List.mem_cons_self ..)
    obtain ⟨values, hfetch, -⟩ := hwrites.load
    obtain ⟨tuples, hall, hlength⟩ := ih fun r hr => h r (List.mem_cons_of_mem row hr)
    refine ⟨values :: tuples, ?_, by simp [hlength]⟩
    rw [List.mapM_cons, hfetch, hall]
    rfl

end

end TableAdapter

end PamMvp.KeyedTables
