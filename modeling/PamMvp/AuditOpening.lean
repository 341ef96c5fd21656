import PamMvp.RecordedChains
import PamMvp.RuntimeFiles

/-!
# Opening the audit database

The constructor of the audit repository ends in one way for every file: it accepts the table
and the version that are there, it creates both in a file without the table, or it refuses.
-/
namespace PamMvp.AuditOpening
open InteractionPrograms SharedPrograms PythonText DomainModel SqliteValues TableConstraints
  AdapterSchemas AuditEncoding RecordedChains
open RuntimeFiles (SqliteFile Constructs)

variable {key : Bytes} {db : Database}

/-- What `_initialize_schema` makes of the file, by the outcome of its check. -/
theorem execOn_initializing {v : PyValue} {table : PyStr} {validate : ℤ → Sql Unit}
    {create : Sql Unit} {unsupported : PyExn} {o : SqlOutcome} {db' : Database}
    (translate : PyExn → PyExn) (hexception : ∀ e, o = .raise e → e.isException = true)
    (hcheck : execOn (answer v) (checkSchema table validate create unsupported) ⟨db, some db⟩ =
      some (o, ⟨db, some db'⟩)) :
    execOn (answer v) (initializeSchema table validate create unsupported translate) ⟨db, none⟩ =
      some (match o with
        | .ret () => (.ret (), ⟨db', none⟩)
        | .raise e => (.raise (translate e), ⟨db, none⟩)) := by
  have hclose (c : Connection) : execOn (answer v) (ask .close) c =
      some (.ret (), ⟨c.committed, none⟩) := execOn_ask (q := .close) (a := ()) rfl
  have hopened (p : Sql Unit) : execOn (answer v) (do
      ask .ensureOwnerOnlyDatabaseFile
      connected p) ⟨db, none⟩ =
        execOn (answer v) (Prog.tryFinally p (ask .close)) ⟨db, none⟩ := by
    rw [execOn_bind _ (execOn_ask (a := ()) (d := ⟨db, none⟩) rfl), connected,
      execOn_bind _ (execOn_ask (a := ()) (d := ⟨db, none⟩) rfl)]
  have hbegin : execOn (answer v) (ask .beginImmediate) ⟨db, none⟩ =
      some (.ret (), ⟨db, some db⟩) := execOn_ask (q := .beginImmediate) (a := ()) rfl
  cases o with
  | ret u =>
    apply execOn_tryExcept
    rw [hopened]
    apply execOn_tryFinally (s := ⟨db', none⟩) _ (hclose _)
    apply execOn_tryExcept
    rw [execOn_bind _ hbegin, execOn_bind _ hcheck]
    exact execOn_ask (q := .commit) (a := ()) rfl
  | raise e =>
    have hrefused : execOn (answer v) (do
        ask .beginImmediate
        checkSchema table validate create unsupported
        ask .commit) ⟨db, none⟩ = some (.raise e, ⟨db, some db'⟩) := by
      rw [execOn_bind _ hbegin]
      exact execOn_bind_raise _ hcheck
    have hbody : execOn (answer v) (Prog.tryFinally (rollingBack do
        ask .beginImmediate
        checkSchema table validate create unsupported
        ask .commit) (ask .close)) ⟨db, none⟩ =
          some (.raise e, ⟨db, none⟩) := by
      apply execOn_tryFinally (s := ⟨db, none⟩) _ (hclose _)
      rw [rollingBack, execOn_tryExcept_raise _ hrefused, if_pos (hexception e rfl),
        execOn_bind _ (execOn_ask (a := ()) (d := ⟨db, none⟩) rfl)]
      rfl
    rw [← hopened] at hbody
    exact execOn_tryExcept_raise _ hbody

/-- How the check of the audit schema ends. -/
inductive Checked (db : Database) : SqlOutcome → Database → Prop where
  | accepted {t : StoredTable} (htable : db.table? Audit.tableName = some t)
    (haccepts : Audit.accepts db.userVersion t.schema) : Checked db (.ret ()) db
  | created (hnone : db.hasTable Audit.tableName = false) (hversion : db.userVersion = 0) :
    Checked db (.ret ()) (createdIn db Audit.created Audit.schemaVersion)
  | refused {e : PyExn} {db' : Database} (hexception : e.isException = true)
    (hnot : ¬ ((∃ t, db.table? Audit.tableName = some t ∧
        Audit.accepts db.userVersion t.schema) ∨
      db.hasTable Audit.tableName = false ∧ db.userVersion = 0)) : Checked db (.raise e) db'

theorem hasTable_of_table {name : PyStr} {t : StoredTable} (h : db.table? name = some t) :
    db.hasTable name = true := by
  rw [Database.hasTable, List.any_eq_true]
  have hname : t.schema.name = name := by simpa using List.find?_some h
  exact ⟨t, List.mem_of_find?_eq_some h, by simp [hname]⟩

theorem execOn_checkSchema (v : PyValue) (db : Database) : ∃ o db',
    execOn (answer v) (checkSchema Audit.tableName Audit.validateExistingSchema
      (createSchema Audit.created Audit.schemaVersion) Audit.unsupported) ⟨db, some db⟩ =
        some (o, ⟨db, some db'⟩) ∧ Checked db o db' := by
  have hversion : execOn (answer v) (ask .userVersion) ⟨db, some db⟩ =
      some (.ret db.userVersion, ⟨db, some db⟩) :=
    execOn_ask (q := .userVersion) (a := db.userVersion) rfl
  have hexists : execOn (answer v) (ask (.tableExists Audit.tableName))
      ⟨db, some db⟩ = some (.ret (db.table? Audit.tableName).isSome, ⟨db, some db⟩) :=
    execOn_ask (q := .tableExists Audit.tableName) (a := (db.table? Audit.tableName).isSome) rfl
  unfold checkSchema
  rw [execOn_bind _ hversion, execOn_bind _ hexists]
  cases htable : db.table? Audit.tableName with
  | some t =>
    have hhas := hasTable_of_table htable
    rw [Option.isSome_some, if_pos rfl, Audit.validateExistingSchema,
      execOn_bind _ (execOn_ask (tableInfo_answer htable)), tableInfo_names]
    by_cases haccepts : Audit.accepts db.userVersion t.schema
    · rw [if_neg]
      · exact ⟨_, db, rfl, .accepted htable haccepts⟩
      · rw [not_or, not_not, not_not]
        exact haccepts
    · rw [if_pos]
      · refine ⟨.raise Audit.unsupported, db, rfl, .refused rfl ?_⟩
        rintro (⟨t', htable', haccepts'⟩ | ⟨hnone, -⟩)
        · rw [htable] at htable'
          cases htable'
          exact haccepts haccepts'
        · rw [hhas] at hnone
          cases hnone
      · rw [← not_and_or]
        exact haccepts
  | none =>
    rw [Option.isSome_none, if_neg (by simp)]
    have hnotable : ¬ ∃ t, db.table? Audit.tableName = some t ∧
        Audit.accepts db.userVersion t.schema := by
      rintro ⟨t, htable', -⟩
      rw [htable] at htable'
      cases htable'
    by_cases hzero : db.userVersion = 0
    · rw [if_pos hzero]
      cases hhas : db.hasTable Audit.tableName with
      | false =>
        have hcreate : answer v ⟨db, some db⟩ (.createTable Audit.created) =
            (.ok (), ⟨db, some (db.create Audit.created)⟩) := by
          have hhas' : db.hasTable Audit.created.name = false := hhas
          simp [answer, Connection.visible, Connection.write, hhas']
        refine ⟨.ret (), createdIn db Audit.created Audit.schemaVersion, ?_, .created hhas hzero⟩
        rw [createSchema, execOn_bind _ (execOn_ask hcreate)]
        exact execOn_ask (q := .setUserVersion _) (a := ()) rfl
      | true =>
        have hcreate : answer v ⟨db, some db⟩ (.createTable Audit.created) =
            (.error (sqliteFailure "table already exists"), ⟨db, some db⟩) := by
          have hhas' : db.hasTable Audit.created.name = true := hhas
          simp [answer, Connection.visible, hhas']
        refine ⟨.raise (sqliteFailure "table already exists"), db, ?_, .refused rfl ?_⟩
        · rw [createSchema]
          exact execOn_bind_raise _ (execOn_ask_error hcreate)
        · rintro (hsome | ⟨hnone, -⟩)
          · exact hnotable hsome
          · rw [hhas] at hnone
            cases hnone
    · rw [if_neg hzero]
      refine ⟨.raise Audit.unsupported, db, rfl, .refused rfl ?_⟩
      rintro (hsome | ⟨-, hversion⟩)
      · exact hnotable hsome
      · exact hzero hversion

theorem loadKey_bytes (hkey : key.length = macSize) :
    execOn (answer (.bytes key)) Audit.loadKey ⟨db, none⟩ = some (.ret key, ⟨db, none⟩) := by
  have hget : execOn (answer (.bytes key)) (ask .getKey) ⟨db, none⟩ =
      some (.ret (.bytes key), ⟨db, none⟩) := execOn_ask (q := .getKey) (a := .bytes key) rfl
  unfold Audit.loadKey rethrowing
  rw [execOn_bind _ (execOn_tryExcept _ hget), lift, checkKey_bytes hkey]
  rfl

/-- How the constructor of the audit repository ends. -/
theorem constructs_audit (hkey : key.length = macSize) (file : SqliteFile) : ∃ o db',
    Checked file.database o db' ∧ ∀ r file', Constructs .audit (.bytes key) file r file' ↔
      match o with
      | .ret () => r = .ok () ∧ file' = { file with database := db' }
      | .raise e => r = .error (initError AuditRepository.isAuditStorageError
          (raised .auditStorageError (py "audit database could not be initialized")) e) ∧
        file' = file := by
  obtain ⟨o, db', hexec, hchecked⟩ := execOn_checkSchema (.bytes key) file.database
  have hexception : ∀ e, o = .raise e → e.isException = true := by
    intro e he
    cases hchecked with
    | accepted => cases he
    | created => cases he
    | refused hexception =>
      cases he
      exact hexception
  have hconstruct := execOn_initializing (initError AuditRepository.isAuditStorageError
    (raised .auditStorageError (py "audit database could not be initialized"))) hexception hexec
  refine ⟨o, db', hchecked, fun r file' => ?_⟩
  unfold Constructs
  change (∃ o c, execOn _ (Audit.loadKey >>= _) _ = _ ∧ _) ↔ _
  rw [execOn_bind _ (loadKey_bytes hkey)]
  simp only [hconstruct]
  cases o with
  | ret u =>
    constructor
    · rintro ⟨_, _, hsame, rfl, rfl⟩
      cases hsame
      exact ⟨rfl, rfl⟩
    · rintro ⟨rfl, rfl⟩
      exact ⟨_, _, rfl, rfl, rfl⟩
  | raise e =>
    constructor
    · rintro ⟨_, _, hsame, rfl, rfl⟩
      cases hsame
      exact ⟨rfl, rfl⟩
    · rintro ⟨rfl, rfl⟩
      exact ⟨_, _, rfl, rfl, rfl⟩

end PamMvp.AuditOpening
