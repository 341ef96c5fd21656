import PamMvp.EnforcedUniqueness

/-!
# Rows of a created table

A table that a repository created converts nothing and fails every violated statement.
What an `INSERT` put into it therefore stands there as it was bound, below the rows that
were there before.
-/
namespace PamMvp.CreatedTables
open PythonText DomainModel SqliteValues SqliteParameters InteractionPrograms SharedPrograms
  TableConstraints AdapterSchemas EnforcedUniqueness RowCodecs

/-- Every value is kept as it is, and no conflict clause skips or replaces a row. -/
structure Plain (schema : TableSchema) : Prop where
  keeps : ∀ c ∈ schema.columns, ∀ v, c.converts v = some v
  fails : ∀ c ∈ schema.columns, c.onNull = .abort
  aborts : ∀ c ∈ schema.constraints, c.onConflict = .abort

section Inserting

variable {table : PyStr} {names : List PyStr} {row values : List SqlValue}
  {rows kept : List (List SqlValue)}

theorem created_plain (r : Repository) : Plain r.created := by
  cases r with
  | audit =>
    constructor
    · simp [Repository.created, Audit.created, createdColumn]
    · simp [Repository.created, Audit.created, createdColumn]
    · simp [Repository.created, Audit.created, uniqueOn, primaryKeyOn, Constraint.onConflict]
  | userAuth =>
    constructor
    · simp [Repository.created, UserAuth.created, createdColumn]
    · simp [Repository.created, UserAuth.created, createdColumn]
    · simp [Repository.created, UserAuth.created, uniqueOn, primaryKeyOn, Constraint.onConflict]
  | vault =>
    constructor
    · simp [Repository.created, Vault.created, createdColumn]
    · simp [Repository.created, Vault.created, createdColumn]
    · simp [Repository.created, Vault.created, primaryKeyOn, Constraint.onConflict]

variable (table) in
/-- A plain column keeps its value or fails the statement. -/
theorem check_plain {c : ColumnDef} (hkeeps : ∀ v, c.converts v = some v)
    (hfails : c.onNull = .abort) (v : SqlValue) :
    c.check table v = .ok v ∨ ∃ message, c.check table v = .error (.failed message) := by
  unfold ColumnDef.check
  rw [hkeeps v]
  by_cases hnull : v = .null ∧ c.notNull = true
  · simp [hnull, hfails]
  · simp [hnull]

theorem check_nullable {c : ColumnDef} {v : SqlValue} (hkeeps : c.converts v = some v)
    (hnull : v = .null → c.notNull = false) : c.check table v = .ok v := by
  unfold ColumnDef.check
  rw [hkeeps]
  by_cases hv : v = .null
  · simp [hnull hv]
  · simp [hv]

variable (table) in
theorem checkColumns_plain {columns : List ColumnDef}
    (hkeeps : ∀ c ∈ columns, ∀ v, c.converts v = some v) (hfails : ∀ c ∈ columns, c.onNull = .abort)
    (hlength : values.length = columns.length) :
    checkColumns table columns values = .ok values ∨
      ∃ message, checkColumns table columns values = .error (.failed message) := by
  induction columns generalizing values with
  | nil =>
    have hnil : values = [] := List.length_eq_zero_iff.mp hlength
    rw [hnil]
    exact .inl rfl
  | cons c columns ih =>
    cases values with
    | nil => cases hlength
    | cons v values =>
      have hcheck := check_plain table (hkeeps c (by simp)) (hfails c (by simp)) v
      have hrest := ih (fun c' hc' => hkeeps c' (List.mem_cons_of_mem _ hc'))
        (fun c' hc' => hfails c' (List.mem_cons_of_mem _ hc')) (Nat.succ.inj hlength)
      simp only [checkColumns, bind, Except.bind]
      rcases hcheck with hcheck | ⟨message, hcheck⟩
      · rw [hcheck]
        rcases hrest with hrest | ⟨message, hrest⟩
        · rw [hrest]
          exact .inl rfl
        · rw [hrest]
          exact .inr ⟨message, rfl⟩
      · rw [hcheck]
        exact .inr ⟨message, rfl⟩

theorem checkColumns_nullable {columns : List ColumnDef}
    (h : List.Forall₂ (fun (c : ColumnDef) v => c.converts v = some v ∧
      (v = .null → c.notNull = false)) columns values) :
    checkColumns table columns values = .ok values := by
  induction h with
  | nil => rfl
  | cons hc _ ih =>
    simp only [checkColumns, check_nullable hc.1 hc.2, ih, bind, Except.bind]
    rfl

variable (table names row rows) in
/-- Constraints that abort keep all rows or fail the statement. -/
theorem resolve_aborting {constraints : List Constraint}
    (haborts : ∀ c ∈ constraints, c.onConflict = .abort) :
    resolve table names row constraints rows = .ok rows ∨
      ∃ message, resolve table names row constraints rows = .error (.failed message) := by
  induction constraints with
  | nil => exact .inl rfl
  | cons c constraints ih =>
    have hrest := ih fun c' hc' => haborts c' (List.mem_cons_of_mem _ hc')
    cases hany : rows.any (c.conflicts names row) with
    | true =>
      refine .inr ⟨c.message table, ?_⟩
      simp [resolve, hany, haborts c (by simp)]
    | false =>
      simp only [resolve, hany, Bool.false_eq_true, if_false]
      exact hrest

/-- A successful `INSERT` into a plain table adds the values as a row, and nothing else. -/
theorem insert_plain_ok {t t' : StoredTable} (hplain : Plain t.schema)
    (hlength : values.length = t.schema.columns.length) (h : t.insert values = .ok t') :
    t' = { t with rows := t.rows ++ [values] } := by
  have hcolumns := checkColumns_plain t.schema.name hplain.keeps hplain.fails hlength
  have haborts : ∀ c ∈ t.schema.checkOrder, c.onConflict = .abort :=
    fun c hc => hplain.aborts c (mem_checkOrder.mp hc)
  have hconstraints := resolve_aborting t.schema.name t.schema.columnNames values t.rows haborts
  rcases hcolumns with hcolumns | ⟨message, hcolumns⟩
  · rcases hconstraints with hconstraints | ⟨message, hconstraints⟩
    · rw [StoredTable.insert_of_ok hcolumns hconstraints] at h
      cases h
      rfl
    · simp [StoredTable.insert, hcolumns, hconstraints, bind, Except.bind] at h
  · simp [StoredTable.insert, hcolumns, bind, Except.bind] at h

end Inserting

section Files

variable {r : Repository} {db db' : Database} {rows : List (List SqlValue)} {key : PyValue}
  {values : List PyValue}

/-- The file has the table that the repository created, with these rows, under its version. -/
structure Holding (r : Repository) (db : Database) (rows : List (List SqlValue)) : Prop where
  table : db.table? r.tableName = some ⟨r.created, rows⟩
  version : db.userVersion = r.schemaVersion

/-- An empty file. -/
def emptyFile : Database := ⟨0, []⟩

/-- A constructor creates its table in an empty file. -/
theorem emptyFile_created (r : Repository) (hkey : KeyFor key r) : ∃ db,
      execOn (answer key) r.construct ⟨emptyFile, none⟩ = some (.ret (), ⟨db, none⟩) ∧
      Holding r db [] := by
  have hholding : Holding r (createdIn emptyFile r.created r.schemaVersion) [] := by
    constructor
    · rw [← created_name]
      exact table?_createdIn _ rfl
    · rfl
  refine ⟨_, ?_, hholding⟩
  cases r with
  | audit =>
    obtain ⟨k, hkey⟩ := hkey rfl
    have hload : execOn (answer key) Audit.loadKey ⟨emptyFile, none⟩ =
        some (.ret k, ⟨emptyFile, none⟩) := by
      unfold Audit.loadKey rethrowing
      rw [execOn_bind _ (execOn_tryExcept _ (execOn_ask (q := .getKey) (a := key)
        (d := ⟨emptyFile, none⟩) rfl)), lift, hkey]
      rfl
    change execOn _ (Audit.loadKey >>= _) _ = _
    rw [execOn_bind _ hload]
    rfl
  | userAuth => rfl
  | vault => rfl

/-- The next constructor accepts the table with whatever rows it has by then. -/
theorem Holding.reopens (h : Holding r db rows) (hkey : KeyFor key r) :
    execOn (answer key) r.construct ⟨db, none⟩ = some (.ret (), ⟨db, none⟩) :=
  execOn_construct h.table (created_accepted r) h.version hkey

theorem created_columnNames (r : Repository) : r.created.columnNames = insertColumns r :=
  columnNames_of_accepts (created_accepted r)

theorem created_columns_length (r : Repository) :
    r.created.columns.length = (insertColumns r).length := by
  rw [← created_columnNames, TableSchema.columnNames, List.length_map]

/-- A row that was inserted stands below the others, as it was bound. -/
theorem Holding.insert_ok (h : Holding r db rows)
    (hlength : values.length = (insertColumns r).length)
    (hinsert : db.insert r.tableName (insertColumns r) values = .ok db') :
    (∀ v ∈ values, v.fits = true ∧ v.encodes = true) ∧
      Holding r db' (rows ++ [values.map PyValue.stored]) := by
  simp only [Database.insert, except_bind_ok_iff, mapM_bindParameter_ok_iff, h.table,
    created_columnNames] at hinsert
  obtain ⟨_, ⟨hvalues, rfl⟩, hinsert⟩ := hinsert
  refine ⟨hvalues, ?_⟩
  rw [if_neg (by simp)] at hinsert
  cases hrow : StoredTable.insert ⟨r.created, rows⟩ (values.map PyValue.stored) with
  | error message =>
    rw [hrow] at hinsert
    cases hinsert
  | ok t =>
    rw [hrow] at hinsert
    cases hinsert
    obtain rfl := insert_plain_ok (created_plain r)
      (by rw [List.length_map, hlength, created_columns_length]) hrow
    exact ⟨table?_put h.table rfl, h.version⟩

/-- Values that fit, with a `NULL` only where it may stand, are inserted unless a constraint
has them already. -/
theorem Holding.insert (h : Holding r db rows)
    (hvalues : ∀ v ∈ values, v.fits = true ∧ v.encodes = true)
    (hnull : List.Forall₂ (fun (c : ColumnDef) v => v = .null → c.notNull = false)
      r.created.columns (values.map PyValue.stored))
    (hfree : ∀ c ∈ r.created.constraints,
      rows.any (c.conflicts (insertColumns r) (values.map PyValue.stored)) = false) :
    ∃ db', db.insert r.tableName (insertColumns r) values = .ok db' ∧
      Holding r db' (rows ++ [values.map PyValue.stored]) := by
  have hcolumns : checkColumns r.created.name r.created.columns (values.map PyValue.stored) =
      .ok (values.map PyValue.stored) := by
    apply checkColumns_nullable
    have hkeeps : ∀ c ∈ r.created.columns, ∀ v, c.converts v = some v := (created_plain r).keeps
    revert hnull hkeeps
    generalize r.created.columns = columns
    generalize values.map PyValue.stored = stored
    intro hnull hkeeps
    induction hnull with
    | nil => exact .nil
    | cons hc _ ih =>
      refine .cons ⟨hkeeps _ (by simp) _, hc⟩ (ih fun c' hc' => ?_)
      exact hkeeps c' (List.mem_cons_of_mem _ hc')
  have hkept : resolve r.created.name r.created.columnNames (values.map PyValue.stored)
      r.created.checkOrder rows = .ok rows := by
    apply resolve_free
    rw [created_columnNames]
    exact fun c hc => hfree c (mem_checkOrder.mp hc)
  have hinsert : db.insert r.tableName (insertColumns r) values =
      .ok (db.put ⟨r.created, rows ++ [values.map PyValue.stored]⟩) := by
    simp only [Database.insert, (mapM_bindParameter_ok_iff values _).mpr ⟨hvalues, rfl⟩, bind,
      Except.bind, h.table, created_columnNames]
    rw [if_neg (by simp), StoredTable.insert_of_ok hcolumns hkept]
    rfl
  exact ⟨_, hinsert, table?_put h.table rfl, h.version⟩

end Files

end PamMvp.CreatedTables
