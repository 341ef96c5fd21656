import PamMvp.SqliteValues
import PamMvp.TableSchemas

/-!
# Tables and their constraints

An `INSERT` converts its values for the columns, checks the columns that are `NOT NULL`
and then the unique constraints, one after the other: the rowid, the indexes from the last
created to the first, and those that replace rows at the end. A constraint that would be
violated fails the statement unless its conflict clause says otherwise. What the catalogue
shows of a table is computed from its columns and constraints, and does not show everything.
-/
namespace PamMvp.TableConstraints
open PythonText SqliteValues TableSchemas

/-- A conflict clause. `ROLLBACK` and `FAIL` end an `INSERT` of one row as `ABORT` does. -/
inductive Conflict where
  | abort
  | ignore
  | replace
  deriving DecidableEq

/-- A column, with what its type does to a value; `none` is a datatype mismatch. -/
structure ColumnDef where
  name : PyStr
  declaredType : PyStr
  notNull : Bool
  onNull : Conflict
  defaultText : Option PyStr
  defaultValue : SqlValue
  converts : SqlValue → Option SqlValue
  text_unchanged : upper declaredType = py "TEXT" → ∀ s, converts (.text s) = some (.text s)
  integer_unchanged :
    upper declaredType = py "INTEGER" → ∀ i, converts (.integer i) = some (.integer i)
  converts_null : ∀ v, converts v = some .null → v = .null

/-- An indexed column or expression, and what its collation compares. -/
inductive Part where
  | column (name : PyStr) (collate : SqlValue → SqlValue)
  | expression (value : List SqlValue → SqlValue) (collate : SqlValue → SqlValue)

/-- A unique constraint. A partial index covers some rows only; the key of a rowid table
may be the rowid itself. -/
inductive Constraint where
  | primaryKey (rowid : Bool) (columns : List (PyStr × (SqlValue → SqlValue)))
    (onConflict : Conflict)
  | unique (name : PyStr) (parts : List Part) (covers : List SqlValue → Bool)
    (onConflict : Conflict)

def Constraint.keyColumns : Constraint → Option (List PyStr)
  | .primaryKey _ columns _ => some (columns.map Prod.fst)
  | .unique _ _ _ _ => none

/-- The definition of a table, with its constraints in the order in which they were created;
the primary key consists of some of its columns. An index that is not unique constrains
nothing. -/
structure TableSchema where
  name : PyStr
  columns : List ColumnDef
  constraints : List Constraint
  key_columns : ∀ c ∈ constraints, ∀ key, c.keyColumns = some key →
    key.Nodup ∧ ∀ column ∈ key, column ∈ columns.map ColumnDef.name

structure StoredTable where
  schema : TableSchema
  rows : List (List SqlValue)

section Catalogue

def Part.columnName : Part → Option PyStr
  | .column name _ => some name
  | .expression _ _ => none

namespace Constraint

def parts : Constraint → List Part
  | .primaryKey _ columns _ => columns.map fun c => .column c.1 c.2
  | .unique _ parts _ _ => parts

def covers : Constraint → List SqlValue → Bool
  | .primaryKey _ _ _ => fun _ => true
  | .unique _ _ covers _ => covers

def onConflict : Constraint → Conflict
  | .primaryKey _ _ clause => clause
  | .unique _ _ _ clause => clause

/-- The key of the table is its rowid. -/
def isRowid : Constraint → Bool
  | .primaryKey rowid _ _ => rowid
  | .unique _ _ _ _ => false

def replaces (c : Constraint) : Bool := c.onConflict = .replace

/-- The columns that `index_info` names. The rowid has no index. -/
def listed : Constraint → Option (List (Option PyStr))
  | .primaryKey true _ _ => none
  | .primaryKey false columns _ => some (columns.map fun c => some c.1)
  | .unique _ parts _ _ => some (parts.map Part.columnName)

/-- What a failure names. -/
def subject (table : PyStr) (c : Constraint) : PyStr :=
  match c.parts.mapM Part.columnName with
  | some names => List.intercalate (py ", ") (names.map fun n => table ++ py "." ++ n)
  | none =>
    match c with
    | .unique name _ _ _ => py "index '" ++ name ++ py "'"
    | .primaryKey _ _ _ => []

def message (table : PyStr) (c : Constraint) : PyStr :=
  py "UNIQUE constraint failed: " ++ c.subject table

end Constraint

namespace TableSchema

def columnNames (schema : TableSchema) : List PyStr := schema.columns.map ColumnDef.name

/-- The position of a column in the primary key, from one. -/
def keyPosition (schema : TableSchema) (name : PyStr) : ℕ :=
  match schema.constraints.findSome? Constraint.keyColumns with
  | none => 0
  | some key => if name ∈ key then key.idxOf name + 1 else 0

/-- `PRAGMA table_info`. -/
def tableInfo (schema : TableSchema) : List Column :=
  schema.columns.map fun c =>
    ⟨c.name, c.declaredType, c.notNull, c.defaultText, schema.keyPosition c.name⟩

/-- The columns of the unique indexes, by `PRAGMA index_list` and `index_info`. -/
def uniqueColumns (schema : TableSchema) : List (List (Option PyStr)) :=
  schema.constraints.filterMap Constraint.listed

end TableSchema

end Catalogue

section Inserting

/-- Why an `INSERT` adds no row. -/
inductive Stop where
  | failed (message : PyStr)
  | ignored

def ColumnDef.check (table : PyStr) (c : ColumnDef) (v : SqlValue) : Except Stop SqlValue :=
  match c.converts v with
  | none => .error (.failed (py "datatype mismatch"))
  | some w =>
    if w = .null ∧ c.notNull = true then
      match c.onNull with
      | .ignore => .error .ignored
      | .replace =>
        if c.defaultValue = .null then
          .error (.failed (py "NOT NULL constraint failed: " ++ table ++ py "." ++ c.name))
        else .ok c.defaultValue
      | .abort => .error (.failed (py "NOT NULL constraint failed: " ++ table ++ py "." ++ c.name))
    else .ok w

def checkColumns (table : PyStr) : List ColumnDef → List SqlValue → Except Stop (List SqlValue)
  | c :: columns, v :: values => do
    let w ← c.check table v
    let row ← checkColumns table columns values
    return w :: row
  | _, _ => .ok []

/-- The value of a column in a row of the table. -/
def valueOf (names : List PyStr) (row : List SqlValue) (name : PyStr) : SqlValue :=
  row.getD (names.idxOf name) .null

def Part.value (names : List PyStr) (row : List SqlValue) : Part → SqlValue
  | .column name _ => valueOf names row name
  | .expression value _ => value row

def Part.collate : Part → SqlValue → SqlValue
  | .column _ collate => collate
  | .expression _ collate => collate

/-- Both rows are covered and have the same key, without a `NULL`. -/
def Constraint.conflicts (names : List PyStr) (c : Constraint) (row r : List SqlValue) : Bool :=
  c.covers row && c.covers r && c.parts.all fun p =>
    p.value names row ≠ .null && p.value names r ≠ .null &&
      p.collate (p.value names row) = p.collate (p.value names r)

/-- The constraints that can stop an `INSERT`: the rowid, then the last index first. -/
def TableSchema.stopping (schema : TableSchema) : List Constraint :=
  let constraints := schema.constraints.filter fun c => !c.replaces
  constraints.filter Constraint.isRowid ++ (constraints.filter fun c => !c.isRowid).reverse

/-- The constraints that remove rows: the last index first, and the rowid at the end. -/
def TableSchema.replacing (schema : TableSchema) : List Constraint :=
  let constraints := schema.constraints.filter Constraint.replaces
  (constraints.filter fun c => !c.isRowid).reverse ++ constraints.filter Constraint.isRowid

/-- The order in which an `INSERT` checks the constraints. -/
def TableSchema.checkOrder (schema : TableSchema) : List Constraint :=
  schema.stopping ++ schema.replacing

/-- The rows that stay when `row` is added. -/
def resolve (table : PyStr) (names : List PyStr) (row : List SqlValue) :
    List Constraint → List (List SqlValue) → Except Stop (List (List SqlValue))
  | [], rows => .ok rows
  | c :: constraints, rows =>
    if rows.any (c.conflicts names row) then
      match c.onConflict with
      | .abort => .error (.failed (c.message table))
      | .ignore => .error .ignored
      | .replace =>
        resolve table names row constraints (rows.filter fun r => !c.conflicts names row r)
    else resolve table names row constraints rows

/-- The `INSERT` of one value for each column; a failure has the message of an
`IntegrityError`. -/
def StoredTable.insert (t : StoredTable) (values : List SqlValue) : Except PyStr StoredTable :=
  let stored := do
    let row ← checkColumns t.schema.name t.schema.columns values
    let kept ← resolve t.schema.name t.schema.columnNames row t.schema.checkOrder t.rows
    return kept ++ [row]
  match stored with
  | .ok rows => .ok { t with rows := rows }
  | .error .ignored => .ok t
  | .error (.failed message) => .error message

end Inserting

section Columns

variable {table : PyStr} {columns : List ColumnDef} {values row : List SqlValue}

end Columns

section Uniqueness

variable {table name : PyStr} {names : List PyStr} {row : List SqlValue}
  {rows : List (List SqlValue)}

/-- The constraint allows a value of the column once: it has this column alone as its key
and covers every row with a value in it. -/
def Constraint.Guards (names : List PyStr) (name : PyStr) (c : Constraint) : Prop :=
  (∃ collate, c.parts = [.column name collate]) ∧
    ∀ row, valueOf names row name ≠ .null → c.covers row = true

/-- `Q` holds of the constraints up to the first one with `P`. -/
def UpTo (Q P : Constraint → Prop) : List Constraint → Prop
  | [] => True
  | c :: constraints => Q c ∧ (P c ∨ UpTo Q P constraints)

theorem UpTo.mono {Q Q' P P' : Constraint → Prop} {constraints : List Constraint}
    (h : UpTo Q P constraints) (hQ : ∀ c, Q c → Q' c) (hP : ∀ c, P c → P' c) :
    UpTo Q' P' constraints := by
  induction constraints with
  | nil => trivial
  | cons c constraints ih =>
    refine ⟨hQ c h.1, ?_⟩
    rcases h.2 with hc | hrest
    · exact .inl (hP c hc)
    · exact .inr (ih hrest)

/-- A row with the same value is in conflict. -/
theorem Constraint.Guards.conflicts {c : Constraint} (h : c.Guards names name)
    {r : List SqlValue} (hrow : valueOf names row name ≠ .null)
    (hr : valueOf names r name = valueOf names row name) : c.conflicts names row r = true := by
  obtain ⟨⟨collate, hparts⟩, hcovers⟩ := h
  have hnonnull : valueOf names r name ≠ .null := hr ▸ hrow
  simp [Constraint.conflicts, hcovers row hrow, hcovers r hnonnull, hparts, Part.value, hr, hrow]

/-- Without a conflicting row the new one is added. -/
theorem resolve_free {constraints : List Constraint}
    (h : ∀ c ∈ constraints, rows.any (c.conflicts names row) = false) :
    resolve table names row constraints rows = .ok rows := by
  induction constraints with
  | nil => rfl
  | cons c constraints ih =>
    simp only [resolve, h c (by simp), Bool.false_eq_true, if_false]
    exact ih fun c' hc' => h c' (List.mem_cons_of_mem _ hc')

section Order

variable {schema : TableSchema} {c : Constraint} {constraints constraints' : List Constraint}

/-- Every constraint is checked. -/
theorem mem_checkOrder : c ∈ schema.checkOrder ↔ c ∈ schema.constraints := by
  simp only [TableSchema.checkOrder, TableSchema.stopping, TableSchema.replacing, List.mem_append,
    List.mem_reverse, List.mem_filter]
  cases c.replaces <;> cases c.isRowid <;> simp

/-- The first violated constraint without `REPLACE`. -/
def TableSchema.firstViolated (schema : TableSchema) (row : List SqlValue)
    (rows : List (List SqlValue)) : Option Constraint :=
  schema.stopping.find? fun c => rows.any (c.conflicts schema.columnNames row)

/-- Why an `INSERT` fails: a column refuses its value, or the first violated constraint has
no clause that says otherwise. -/
inductive StoredTable.Fails (t : StoredTable) (values : List SqlValue) : PyStr → Prop where
  | column {message : PyStr}
      (h : checkColumns t.schema.name t.schema.columns values = .error (.failed message)) :
      Fails t values message
  | constraint {stored : List SqlValue} {c : Constraint}
      (hrow : checkColumns t.schema.name t.schema.columns values = .ok stored)
      (hfirst : t.schema.firstViolated stored t.rows = some c) (habort : c.onConflict = .abort) :
      Fails t values (c.message t.schema.name)

section Failure

variable {t : StoredTable} {values stored : List SqlValue} {message : PyStr}

end Failure

end Order

theorem StoredTable.insert_of_ok {t : StoredTable} {values stored : List SqlValue}
    {kept : List (List SqlValue)}
    (hrow : checkColumns t.schema.name t.schema.columns values = .ok stored)
    (hkept : resolve t.schema.name t.schema.columnNames stored t.schema.checkOrder t.rows =
      .ok kept) : t.insert values = .ok { t with rows := kept ++ [stored] } := by
  simp only [StoredTable.insert, hrow, hkept, bind, Except.bind]
  rfl

/-- The name of a table and its definition survive every `INSERT`. -/
theorem StoredTable.insert_schema {t t' : StoredTable} {values : List SqlValue}
    (h : t.insert values = .ok t') : t'.schema = t.schema := by
  unfold StoredTable.insert at h
  dsimp only at h
  split at h
  · cases h
    rfl
  · cases h
    rfl
  · cases h

end Uniqueness

end PamMvp.TableConstraints
