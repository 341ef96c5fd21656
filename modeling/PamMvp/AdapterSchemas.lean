import PamMvp.AuditRepository
import PamMvp.CredentialVault
import PamMvp.TableConstraints

/-!
# Opening the audit, authentication and vault databases

Each constructor looks at one table and at the version of its file, inside a transaction:
it accepts them, creates what is missing in an empty file, or raises. What an accepted
table looks like differs between the three.
-/
namespace PamMvp.AdapterSchemas
open PythonText DomainModel SqliteValues SqliteParameters InteractionPrograms SharedPrograms
  TableSchemas TableConstraints

/-- A database file. -/
structure Database where
  userVersion : ℤ
  tables : List StoredTable

namespace Database

def table? (db : Database) (name : PyStr) : Option StoredTable :=
  db.tables.find? fun t => t.schema.name = name

/-- The table of this name is replaced. -/
def put (db : Database) (t : StoredTable) : Database :=
  { db with tables := db.tables.map fun u => if u.schema.name = t.schema.name then t else u }

def create (db : Database) (schema : TableSchema) : Database :=
  { db with tables := db.tables ++ [⟨schema, []⟩] }

def foldCase (text : PyStr) : PyStr :=
  text.map fun c => if 0x41 ≤ c ∧ c ≤ 0x5A then c + 0x20 else c

/-- Names of tables do not differ in ASCII case only. -/
def hasTable (db : Database) (name : PyStr) : Bool :=
  db.tables.any fun t => foldCase t.schema.name = foldCase name

end Database

section Calls

inductive SqlCall where
  | getKey
  | ensureOwnerOnlyDatabaseFile
  | connect
  | beginImmediate
  | userVersion
  | tableExists (name : PyStr)
  | tableInfo (name : PyStr)
  | uniqueIndexes (name : PyStr)
  | createTable (schema : TableSchema)
  | setUserVersion (version : ℤ)
  | insert (table : PyStr) (columns : List PyStr) (values : List PyValue)
  | commit
  | rollback
  | close

abbrev SqlCall.Answer : SqlCall → Type
  | .getKey => PyValue
  | .userVersion => ℤ
  | .tableExists _ => Bool
  | .tableInfo _ => List Column
  | .uniqueIndexes _ => List (List (Option PyStr))
  | _ => Unit

abbrev sqlSignature : Signature := ⟨SqlCall, SqlCall.Answer, PyExn⟩

abbrev Sql (α : Type) : Type := Prog sqlSignature Unit α

abbrev SqlOutcome : Type := Outcome sqlSignature Unit

def ask (c : SqlCall) : Sql c.Answer := Prog.perform (S := sqlSignature) c

def throw {α : Type} (e : PyExn) : Sql α := Prog.raise (S := sqlSignature) e

def lift {α : Type} (r : Except PyExn α) : Sql α := Prog.ofReply (S := sqlSignature) r

/-- `except` clauses that replace or repeat the caught exception. -/
def rethrowing {α : Type} (p : Sql α) (translate : PyExn → PyExn) : Sql α :=
  p.tryExcept fun e => throw (translate e)

/-- `except Exception: connection.rollback(); raise`. -/
def rollingBack (p : Sql Unit) : Sql Unit :=
  p.tryExcept fun e => do
    if e.isException then ask .rollback
    throw e

/-- `with closing(sqlite3.connect(...)) as connection`. -/
def connected (p : Sql Unit) : Sql Unit := do
  ask .connect
  Prog.tryFinally p (ask .close)

end Calls

section Server

/-- A file and the transaction that is open on it. -/
structure Connection where
  committed : Database
  transaction : Option Database

def Connection.visible (c : Connection) : Database := c.transaction.getD c.committed

/-- Outside a transaction a statement commits itself. -/
def Connection.write (c : Connection) (db : Database) : Connection :=
  if c.transaction.isSome then { c with transaction := some db } else ⟨db, none⟩

def sqliteFailure (message : String) : PyExn := raised .sqliteError (py message)

/-- An `INSERT` that names the columns of the table in their order. -/
def Database.insert (db : Database) (table : PyStr) (columns : List PyStr)
    (values : List PyValue) : Except PyExn Database := do
  let values ← values.mapM bindParameter
  match db.table? table with
  | none => .error (sqliteFailure "no such table")
  | some t =>
    if t.schema.columnNames ≠ columns then .error (sqliteFailure "table has no column of this name")
    else
      match t.insert values with
      | .error message => .error (raised .sqliteIntegrityError message)
      | .ok t' => return db.put t'

/-- What a call is answered when nothing fails. `key` is what the key provider returns. -/
def answer (key : PyValue) (c : Connection) :
    (call : SqlCall) → Reply sqlSignature call × Connection
  | .getKey => (.ok key, c)
  | .ensureOwnerOnlyDatabaseFile => (.ok (), c)
  | .connect => (.ok (), c)
  | .beginImmediate =>
    if c.transaction.isSome then
      (.error (sqliteFailure "cannot start a transaction within a transaction"), c)
    else (.ok (), { c with transaction := some c.committed })
  | .userVersion => (.ok c.visible.userVersion, c)
  | .tableExists name => (.ok (c.visible.table? name).isSome, c)
  | .tableInfo name =>
    (.ok (((c.visible.table? name).map fun t => t.schema.tableInfo).getD []), c)
  | .uniqueIndexes name =>
    (.ok (((c.visible.table? name).map fun t => t.schema.uniqueColumns).getD []), c)
  | .createTable schema =>
    if c.visible.hasTable schema.name then (.error (sqliteFailure "table already exists"), c)
    else (.ok (), c.write (c.visible.create schema))
  | .setUserVersion version => (.ok (), c.write { c.visible with userVersion := version })
  | .insert table columns values =>
    match c.visible.insert table columns values with
    | .error e => (.error e, { c with transaction := some c.visible })
    | .ok db => (.ok (), { c with transaction := some db })
  | .commit => (.ok (), ⟨c.visible, none⟩)
  | .rollback => (.ok (), { c with transaction := none })
  | .close => (.ok (), { c with transaction := none })

/-- The answers of the key provider, of the file system and of SQLite. -/
inductive Serves (key : PyValue) (c : Connection) :
    (call : SqlCall) → Reply sqlSignature call → Connection → Prop where
  | answered (call : SqlCall) : Serves key c call (answer key c call).1 (answer key c call).2
  | failed {call : SqlCall} (hcall : call ≠ .close) (e : PyExn) : Serves key c call (.error e) c
  | rolledBack {call : SqlCall} (hcall : call ≠ .close) (e : PyExn) :
    Serves key c call (.error e) { c with transaction := none }

end Server

section Constructors

/-- The branches of `_initialize_schema`. -/
def checkSchema (table : PyStr) (validateExistingSchema : ℤ → Sql Unit) (createSchema : Sql Unit)
    (unsupported : PyExn) : Sql Unit := do
  let version ← ask .userVersion
  if ← ask (.tableExists table) then validateExistingSchema version
  else if version = 0 then createSchema
  else throw unsupported

/-- `_initialize_schema`, which the three repositories share but for their table. -/
def initializeSchema (table : PyStr) (validateExistingSchema : ℤ → Sql Unit)
    (createSchema : Sql Unit) (unsupported : PyExn) (translate : PyExn → PyExn) : Sql Unit :=
  rethrowing (do
    ask .ensureOwnerOnlyDatabaseFile
    connected (rollingBack do
      ask .beginImmediate
      checkSchema table validateExistingSchema createSchema unsupported
      ask .commit)) translate

/-- `CREATE TABLE` and the version of the schema. -/
def createSchema (schema : TableSchema) (version : ℤ) : Sql Unit := do
  ask (.createTable schema)
  ask (.setUserVersion version)

/-- `except (DatabasePermissionError, sqlite3.Error)` after a clause that raises the errors
of the repository again. -/
def initError (own : PyExn → Bool) (notInitialized : PyExn) (e : PyExn) : PyExn :=
  if own e then e
  else if e.cls = .databasePermissionError || AuditRepository.isSqliteError e then notInitialized
  else e

/-- A column of a `CREATE TABLE` statement. The repositories write into it only values of
its type, which are kept. -/
def createdColumn (name declaredType : String) (notNull : Bool) : ColumnDef where
  name := py name
  declaredType := py declaredType
  notNull := notNull
  onNull := .abort
  defaultText := none
  defaultValue := .null
  converts := some
  text_unchanged _ _ := rfl
  integer_unchanged _ _ := rfl
  converts_null _ h := Option.some.inj h

/-- `PRIMARY KEY` after a column that is no `INTEGER`. -/
def primaryKeyOn (name : String) : Constraint := .primaryKey false [(py name, id)] .abort

/-- `UNIQUE` after a column. -/
def uniqueOn (name : String) : Constraint :=
  .unique [] [.column (py name) id] (fun _ => true) .abort

namespace Audit

def tableName : PyStr := py "audit_events"

/-- `SCHEMA_VERSION`. -/
def schemaVersion : ℤ := 2

/-- `SCHEMA_COLUMNS`. -/
def schemaColumns : List PyStr :=
  [py "sequence_no", py "id", py "timestamp", py "event_type", py "actor_user_id",
    py "target_id", py "session_id", py "result", py "reason_code", py "previous_mac",
    py "event_mac"]

def unsupported : PyExn :=
  raised .unsupportedAuditSchemaError
    (py "audit database schema is unsupported; recreate the audit database")

/-- The check of `_validate_existing_schema`. -/
def accepts (version : ℤ) (schema : TableSchema) : Prop :=
  version = schemaVersion ∧ schema.columnNames = schemaColumns

def validateExistingSchema (version : ℤ) : Sql Unit := do
  let columns := (← ask (.tableInfo tableName)).map Column.name
  if version ≠ schemaVersion ∨ columns ≠ schemaColumns then throw unsupported

def created : TableSchema where
  name := tableName
  columns := [createdColumn "sequence_no" "INTEGER" true, createdColumn "id" "TEXT" false,
    createdColumn "timestamp" "TEXT" true, createdColumn "event_type" "TEXT" true,
    createdColumn "actor_user_id" "TEXT" true, createdColumn "target_id" "TEXT" true,
    createdColumn "session_id" "TEXT" false, createdColumn "result" "TEXT" true,
    createdColumn "reason_code" "TEXT" false, createdColumn "previous_mac" "BLOB" true,
    createdColumn "event_mac" "BLOB" true]
  constraints := [uniqueOn "sequence_no", primaryKeyOn "id"]
  key_columns := by simp [uniqueOn, primaryKeyOn, Constraint.keyColumns, createdColumn]

def loadKey : Sql Bytes := do
  let key ← rethrowing (ask .getKey) AuditRepository.keyNotLoaded
  lift (AuditRepository.checkKey key)

/-- `SQLiteAuditRepository(database_path, integrity_key_provider)`. -/
def construct : Sql Unit := do
  let _ ← loadKey
  initializeSchema tableName validateExistingSchema (createSchema created schemaVersion) unsupported
    (initError AuditRepository.isAuditStorageError
      (raised .auditStorageError (py "audit database could not be initialized")))

end Audit

namespace UserAuth

def tableName : PyStr := py "pam_users"

def schemaVersion : ℤ := 1

/-- `SCHEMA_DEFINITION`. -/
def schemaDefinition : List Column :=
  [column "id" "TEXT" false 1, column "username" "TEXT" true 0,
    column "password_hash" "TEXT" true 0, column "enabled" "INTEGER" true 0]

def unsupported : PyExn :=
  raised .unsupportedUserAuthSchemaError (py "authentication database schema is unsupported")

/-- `UserAuthStorageError` and its subclasses. -/
def isUserAuthStorageError (e : PyExn) : Bool :=
  e.cls = .userAuthStorageError || e.cls = .duplicateUserIdError ||
    e.cls = .duplicateUsernameError || e.cls = .malformedUserAuthError ||
    e.cls = .unsupportedUserAuthSchemaError

def accepts (version : ℤ) (schema : TableSchema) : Prop :=
  version = schemaVersion ∧ schema.tableInfo.map Column.entry = schemaDefinition ∧
    [some (py "id")] ∈ schema.uniqueColumns ∧ [some (py "username")] ∈ schema.uniqueColumns

def validateExistingSchema (version : ℤ) : Sql Unit := do
  let definition := (← ask (.tableInfo tableName)).map Column.entry
  let uniqueColumns ← ask (.uniqueIndexes tableName)
  if version ≠ schemaVersion ∨ definition ≠ schemaDefinition ∨
      [some (py "id")] ∉ uniqueColumns ∨ [some (py "username")] ∉ uniqueColumns then
    throw unsupported

def created : TableSchema where
  name := tableName
  columns := [createdColumn "id" "TEXT" false, createdColumn "username" "TEXT" true,
    createdColumn "password_hash" "TEXT" true, createdColumn "enabled" "INTEGER" true]
  constraints := [primaryKeyOn "id", uniqueOn "username"]
  key_columns := by simp [uniqueOn, primaryKeyOn, Constraint.keyColumns, createdColumn]

/-- `SQLiteUserAuthRepository(database_path, password_hasher)`. -/
def construct : Sql Unit :=
  initializeSchema tableName validateExistingSchema (createSchema created schemaVersion) unsupported
    (initError isUserAuthStorageError
      (raised .userAuthStorageError (py "authentication database could not be initialized")))

end UserAuth

namespace Vault

def tableName : PyStr := py "vault_credentials"

def schemaVersion : ℤ := 1

/-- `SCHEMA_DEFINITION`. -/
def schemaDefinition : List Column :=
  [column "id" "TEXT" false 1, column "encryption_version" "INTEGER" true 0,
    column "nonce" "BLOB" true 0, column "ciphertext" "BLOB" true 0]

def unsupported : PyExn :=
  raised .unsupportedVaultSchemaError (py "vault database schema is unsupported")

def accepts (version : ℤ) (schema : TableSchema) : Prop :=
  (version = 0 ∨ version = schemaVersion) ∧ schema.tableInfo.map Column.entry = schemaDefinition

def validateExistingSchema (version : ℤ) : Sql Unit := do
  let definition := (← ask (.tableInfo tableName)).map Column.entry
  if version ∉ [0, schemaVersion] ∨ definition ≠ schemaDefinition then throw unsupported
  else if version = 0 then ask (.setUserVersion 1)

def created : TableSchema where
  name := tableName
  columns := [createdColumn "id" "TEXT" false, createdColumn "encryption_version" "INTEGER" true,
    createdColumn "nonce" "BLOB" true, createdColumn "ciphertext" "BLOB" true]
  constraints := [primaryKeyOn "id"]
  key_columns := by simp [primaryKeyOn, Constraint.keyColumns, createdColumn]

/-- `SQLiteVault(database_path, cipher)`. -/
def construct : Sql Unit :=
  initializeSchema tableName validateExistingSchema (createSchema created schemaVersion) unsupported
    (initError CredentialVault.isVaultError
      (raised .vaultError (py "vault could not be initialized")))

end Vault

end Constructors

section Transactions

variable {key : PyValue} {c c' : Connection} {db v v' : Database}

theorem serves_ok {call : SqlCall} {a : call.Answer} (h : Serves key c call (.ok a) c') :
    answer key c call = (.ok a, c') := by
  generalize hr : (.ok a : Reply sqlSignature call) = r at h
  cases h with
  | answered => rfl
  | failed hcall e => cases hr
  | rolledBack hcall e => cases hr

theorem answer_error_committed {call : SqlCall} {e : PyExn}
    (h : (answer key c call).1 = .error e) : (answer key c call).2.committed = c.committed := by
  cases call with
  | insert table columns values =>
    simp only [answer] at h ⊢
    cases hinsert : c.visible.insert table columns values with
    | error e' => rfl
    | ok db => rfl
  | beginImmediate =>
    simp only [answer]
    split_ifs <;> rfl
  | createTable schema =>
    simp only [answer] at h ⊢
    split_ifs at h ⊢
    rfl
  | _ => first | rfl | cases h

/-- A call that raises commits nothing. -/
theorem serves_error {call : SqlCall} {e : PyExn} (h : Serves key c call (.error e) c') :
    c'.committed = c.committed := by
  generalize hr : (.error e : Reply sqlSignature call) = r at h
  cases h with
  | answered => exact answer_error_committed hr.symm
  | failed hcall e => rfl
  | rolledBack hcall e => rfl

/-- What a part of the transaction over `db` leaves behind. -/
def Inside {α : Type} (db : Database) (R : α → Database → Prop) :
    Outcome sqlSignature α → Connection → Prop
  | .ret a, c => ∃ v, c = ⟨db, some v⟩ ∧ R a v
  | .raise _, c => c.committed = db

theorem ask_inside {w : Database} {call : SqlCall} {a : call.Answer}
    (h : answer key ⟨db, some v⟩ call = (.ok a, ⟨db, some w⟩)) :
    EnsuresOn (Serves key) (ask call) ⟨db, some v⟩ (Inside db fun b u => b = a ∧ u = w) := by
  refine ensuresOn_perform (fun b c' hserve => ?_) fun e c' hserve => serves_error hserve
  have hsame := (serves_ok hserve).symm.trans h
  simp only [Prod.mk.injEq, Except.ok.injEq] at hsame
  obtain ⟨rfl, rfl⟩ := hsame
  exact ⟨w, rfl, rfl, rfl⟩

theorem Inside.bind {α β : Type} {p : Sql α} {f : α → Sql β} {R : α → Database → Prop}
    {R' : β → Database → Prop} (hp : EnsuresOn (Serves key) p c (Inside db R))
    (hf : ∀ a v, R a v → EnsuresOn (Serves key) (f a) ⟨db, some v⟩ (Inside db R')) :
    EnsuresOn (Serves key) (p >>= f) c (Inside db R') := by
  refine hp.bind ?_ fun e c' h => h
  intro a c' h
  obtain ⟨v, rfl, hR⟩ := h
  exact hf a v hR

theorem throw_inside {α : Type} (e : PyExn) (R : α → Database → Prop) :
    EnsuresOn (Serves key) (throw e) ⟨db, some v⟩ (Inside db R) :=
  ensuresOn_raise (S := sqlSignature) e rfl

theorem pure_inside {α : Type} {a : α} {R : α → Database → Prop} (h : R a v) :
    EnsuresOn (Serves key) (pure a : Sql α) ⟨db, some v⟩ (Inside db R) :=
  ensuresOn_ret (S := sqlSignature) a ⟨v, rfl, h⟩

/-- What a whole transaction leaves behind: the new file, or the old one and an exception. -/
def Ended (db : Database) (R : Database → Prop) : SqlOutcome → Connection → Prop
  | .ret _, c => ∃ db', c = ⟨db', none⟩ ∧ R db'
  | .raise _, c => c = ⟨db, none⟩

/-- Before the connection is closed a transaction may still be open. -/
def Ending (db : Database) (R : Database → Prop) : SqlOutcome → Connection → Prop
  | .ret _, c => ∃ db', c = ⟨db', none⟩ ∧ R db'
  | .raise _, c => c.committed = db

theorem commit_ending {R : Database → Prop} (h : R v) :
    EnsuresOn (Serves key) (ask .commit) ⟨db, some v⟩ (Ending db R) := by
  refine ensuresOn_perform (fun b c' hserve => ?_) fun e c' hserve => serves_error hserve
  have hsame := serves_ok hserve
  simp only [answer, Connection.visible, Option.getD_some, Prod.mk.injEq] at hsame
  exact ⟨v, hsame.2.symm, h⟩

theorem rollingBack_ending {p : Sql Unit} {R : Database → Prop}
    (hp : EnsuresOn (Serves key) p c (Ending db R)) :
    EnsuresOn (Serves key) (rollingBack p) c (Ending db R) := by
  refine hp.tryExcept (fun a c' h => h) fun e c' h => ?_
  have hthrow : ∀ c'' : Connection, c''.committed = db →
      EnsuresOn (Serves key) (throw e : Sql Unit) c'' (Ending db R) :=
    fun c'' hc => ensuresOn_raise (S := sqlSignature) e hc
  split_ifs
  · refine EnsuresOn.bind (P := fun _ c'' => c''.committed = db) ?_ ?_ ?_
    · refine ensuresOn_perform (fun b c'' hserve => ?_) fun e' c'' hserve => ?_
      · have hsame := serves_ok hserve
        simp only [answer, Prod.mk.injEq] at hsame
        rw [← hsame.2]
        exact h
      · exact (serves_error hserve).trans h
    · exact fun _ c'' hc => hthrow c'' hc
    · exact fun e' c'' hc => hc
  · exact hthrow c' h

/-- A call outside of a transaction that only looks leaves everything as it was. -/
theorem ask_outside {q : SqlCall} {a : q.Answer}
    (h : answer key ⟨db, none⟩ q = (.ok a, ⟨db, none⟩)) :
    EnsuresOn (Serves key) (ask q) ⟨db, none⟩ fun o c' =>
      c' = ⟨db, none⟩ ∧ ∀ b, o = .ret b → b = a := by
  refine ensuresOn_perform (fun b c' hserve => ?_) fun e c' hserve => ⟨?_, nofun⟩
  · have hsame := (serves_ok hserve).symm.trans h
    simp only [Prod.mk.injEq, Except.ok.injEq] at hsame
    refine ⟨hsame.2, fun b' hb => ?_⟩
    cases hb
    exact hsame.1
  · generalize hr : (.error e : Reply sqlSignature q) = r at hserve
    cases hserve with
    | answered => rw [h]
    | failed hcall e => rfl
    | rolledBack hcall e => rfl

/-- Closing always succeeds and ends what is left of the transaction. -/
theorem close_ensuresOn {Q : SqlOutcome → Connection → Prop}
    (h : Q (.ret ()) { c with transaction := none }) :
    EnsuresOn (Serves key) (ask .close) c Q := by
  refine ensuresOn_perform (fun b c' hserve => ?_) fun e c' hserve => ?_
  · have hsame := serves_ok hserve
    simp only [answer, Prod.mk.injEq] at hsame
    rw [← hsame.2]
    exact h
  · generalize hr : (.error e : Reply sqlSignature .close) = r at hserve
    cases hserve with
    | answered => cases hr
    | failed hcall e => exact absurd rfl hcall
    | rolledBack hcall e => exact absurd rfl hcall

theorem connected_ended {p : Sql Unit} {R : Database → Prop}
    (hp : EnsuresOn (Serves key) p ⟨db, none⟩ (Ending db R)) :
    EnsuresOn (Serves key) (connected p) ⟨db, none⟩ (Ended db R) := by
  refine (ask_outside (q := .connect) (a := ()) rfl).bind ?_ fun e c' h => h.1
  intro _ c' h
  rw [h.1]
  refine hp.tryFinally fun o c'' hend => close_ensuresOn ?_
  cases o with
  | ret a =>
    obtain ⟨db', rfl, hR⟩ := hend
    exact ⟨db', rfl, hR⟩
  | raise e =>
    change c''.committed = db at hend
    simp only [Ended, hend]

/-- The file after `CREATE TABLE`. -/
def createdIn (db : Database) (schema : TableSchema) (version : ℤ) : Database :=
  { db.create schema with userVersion := version }

theorem createSchema_inside (schema : TableSchema) (version : ℤ) :
    EnsuresOn (Serves key) (createSchema schema version) ⟨db, some db⟩
      (Inside db fun _ v => v = createdIn db schema version) := by
  unfold createSchema
  cases htaken : db.hasTable schema.name with
  | true =>
    refine Inside.bind (R := fun _ _ => False) ?_ fun _ _ h => h.elim
    refine ensuresOn_perform (fun b c' hserve => ?_) fun e c' hserve => serves_error hserve
    have hsame := serves_ok hserve
    simp [answer, Connection.visible, htaken] at hsame
  | false =>
    refine Inside.bind (ask_inside (a := ()) (w := db.create schema) ?_) ?_
    · simp [answer, Connection.visible, Connection.write, htaken]
    · intro _ v hv
      rw [hv.2]
      refine (ask_inside (a := ()) (w := createdIn db schema version) ?_).mono ?_
      · simp [answer, Connection.visible, Connection.write, createdIn]
      · intro o c' h
        cases o with
        | ret a =>
          obtain ⟨v', rfl, -, hv'⟩ := h
          exact ⟨v', rfl, hv'⟩
        | raise e => exact h

/-- What the two branches achieve, the constructor achieves, or it leaves the file as it
was. -/
theorem initializeSchema_ended {table : PyStr} {validate : ℤ → Sql Unit} {create : Sql Unit}
    {unsupported : PyExn} {translate : PyExn → PyExn} {R : Database → Prop}
    (hvalidate : ∀ t, db.table? table = some t → EnsuresOn (Serves key) (validate db.userVersion)
      ⟨db, some db⟩ (Inside db fun _ v => R v))
    (hcreate : db.table? table = none → db.userVersion = 0 →
      EnsuresOn (Serves key) create ⟨db, some db⟩ (Inside db fun _ v => R v)) :
    EnsuresOn (Serves key) (initializeSchema table validate create unsupported translate)
      ⟨db, none⟩ (Ended db R) := by
  have hcheck : EnsuresOn (Serves key) (checkSchema table validate create unsupported)
      ⟨db, some db⟩ (Inside db fun _ v => R v) := by
    refine Inside.bind (ask_inside (a := db.userVersion) (w := db) rfl) fun version v h => ?_
    rw [h.1, h.2]
    refine Inside.bind (ask_inside (a := (db.table? table).isSome) (w := db) rfl)
      fun exists? v h => ?_
    rw [h.1, h.2]
    cases htable : db.table? table with
    | some t => exact hvalidate t htable
    | none =>
      simp only [Option.isSome_none, Bool.false_eq_true, if_false]
      split_ifs with hversion
      · exact hcreate htable hversion
      · exact throw_inside unsupported _
  have hbody : EnsuresOn (Serves key) (do
      ask .beginImmediate
      checkSchema table validate create unsupported
      ask .commit) ⟨db, none⟩ (Ending db R) := by
    refine EnsuresOn.bind (P := Inside db fun (_ : Unit) v => v = db) ?_ ?_ fun e c' h => h
    · refine ensuresOn_perform (fun b c' hserve => ?_) fun e c' hserve => serves_error hserve
      have hsame := serves_ok hserve
      simp only [answer, Option.isSome_none, Bool.false_eq_true, if_false, Prod.mk.injEq] at hsame
      exact ⟨db, hsame.2.symm, rfl⟩
    · intro _ c' h
      obtain ⟨v, rfl, rfl⟩ := h
      refine hcheck.bind ?_ fun e c' h => h
      intro _ c' h
      obtain ⟨v, rfl, hR⟩ := h
      exact commit_ending hR
  refine EnsuresOn.tryExcept (P := Ended db R) ?_ (fun a c' h => h) fun e c' h => ?_
  · refine (ask_outside (q := .ensureOwnerOnlyDatabaseFile) (a := ()) rfl).bind ?_
      fun e c' h => h.1
    intro _ c' h
    rw [h.1]
    exact connected_ended (rollingBack_ending hbody)
  · exact ensuresOn_raise (S := sqlSignature) _ h

end Transactions

section Repositories

inductive Repository where
  | audit
  | userAuth
  | vault

namespace Repository

def tableName : Repository → PyStr
  | .audit => Audit.tableName
  | .userAuth => UserAuth.tableName
  | .vault => Vault.tableName

def construct : Repository → Sql Unit
  | .audit => Audit.construct
  | .userAuth => UserAuth.construct
  | .vault => Vault.construct

/-- The check of an existing table. -/
def accepts : Repository → ℤ → TableSchema → Prop
  | .audit => Audit.accepts
  | .userAuth => UserAuth.accepts
  | .vault => Vault.accepts

def created : Repository → TableSchema
  | .audit => Audit.created
  | .userAuth => UserAuth.created
  | .vault => Vault.created

def schemaVersion : Repository → ℤ
  | .audit => Audit.schemaVersion
  | .userAuth => UserAuth.schemaVersion
  | .vault => Vault.schemaVersion

end Repository

/-- A constructor that returns has accepted the table and written the version of the schema,
or it has created both in a file without them. -/
inductive Opened (r : Repository) (db : Database) : Database → Prop where
  | accepted {t : StoredTable} (htable : db.table? r.tableName = some t)
    (haccepts : r.accepts db.userVersion t.schema) :
    Opened r db { db with userVersion := r.schemaVersion }
  | created (htable : db.table? r.tableName = none) (hversion : db.userVersion = 0) :
    Opened r db (createdIn db r.created r.schemaVersion)

variable {key : PyValue} {db db' : Database}

theorem tableInfo_answer {table : PyStr} {t : StoredTable} (htable : db.table? table = some t) :
    answer key ⟨db, some db⟩ (.tableInfo table) = (.ok t.schema.tableInfo, ⟨db, some db⟩) := by
  simp [answer, Connection.visible, htable]

theorem uniqueIndexes_answer {table : PyStr} {t : StoredTable}
    (htable : db.table? table = some t) : answer key ⟨db, some db⟩ (.uniqueIndexes table) =
      (.ok t.schema.uniqueColumns, ⟨db, some db⟩) := by
  simp [answer, Connection.visible, htable]

theorem tableInfo_names (schema : TableSchema) :
    schema.tableInfo.map Column.name = schema.columnNames := by
  simp [TableSchema.tableInfo, TableSchema.columnNames]

theorem auditValidate_inside {t : StoredTable} (htable : db.table? Audit.tableName = some t) :
    EnsuresOn (Serves key) (Audit.validateExistingSchema db.userVersion) ⟨db, some db⟩
      (Inside db fun _ v => Opened .audit db v) := by
  refine Inside.bind (ask_inside (tableInfo_answer htable)) fun info v h => ?_
  rw [h.1, h.2, tableInfo_names]
  dsimp only
  split_ifs with hrefused
  · exact throw_inside _ _
  · simp only [not_or, not_not] at hrefused
    refine pure_inside ?_
    have hopened := Opened.accepted (r := .audit) htable hrefused
    rwa [show Repository.schemaVersion .audit = db.userVersion from hrefused.1.symm] at hopened

theorem userAuthValidate_inside {t : StoredTable}
    (htable : db.table? UserAuth.tableName = some t) :
    EnsuresOn (Serves key) (UserAuth.validateExistingSchema db.userVersion) ⟨db, some db⟩
      (Inside db fun _ v => Opened .userAuth db v) := by
  refine Inside.bind (ask_inside (tableInfo_answer htable)) fun info v h => ?_
  rw [h.1, h.2]
  refine Inside.bind (ask_inside (uniqueIndexes_answer htable)) fun unique v h => ?_
  rw [h.1, h.2]
  split_ifs with hrefused
  · exact throw_inside _ _
  · simp only [not_or, not_not] at hrefused
    refine pure_inside ?_
    have hopened := Opened.accepted (r := .userAuth) htable hrefused
    rwa [show Repository.schemaVersion .userAuth = db.userVersion from hrefused.1.symm] at hopened

theorem vaultValidate_inside {t : StoredTable} (htable : db.table? Vault.tableName = some t) :
    EnsuresOn (Serves key) (Vault.validateExistingSchema db.userVersion) ⟨db, some db⟩
      (Inside db fun _ v => Opened .vault db v) := by
  refine Inside.bind (ask_inside (tableInfo_answer htable)) fun info v h => ?_
  rw [h.1, h.2]
  dsimp only
  split_ifs with hrefused hversion
  · exact throw_inside _ _
  all_goals
    rw [not_or, not_not, not_not, List.mem_pair] at hrefused
    have hopened := Opened.accepted (r := .vault) htable hrefused
  · refine (ask_inside (a := ()) (w := { db with userVersion := 1 }) ?_).mono ?_
    · simp [answer, Connection.visible, Connection.write]
    · intro o c' h
      cases o with
      | ret a =>
        obtain ⟨v', rfl, -, rfl⟩ := h
        exact ⟨_, rfl, hopened⟩
      | raise e => exact h
  · refine pure_inside ?_
    have hsame : Repository.schemaVersion .vault = db.userVersion :=
      (hrefused.1.resolve_left hversion).symm
    rwa [hsame] at hopened

theorem loadKey_untouched :
    EnsuresOn (Serves key) Audit.loadKey ⟨db, none⟩ fun _ c' => c' = ⟨db, none⟩ := by
  refine EnsuresOn.bind (P := fun _ c' => c' = ⟨db, none⟩) ?_ ?_ ?_
  · refine EnsuresOn.tryExcept (P := fun _ c' => c' = ⟨db, none⟩) ?_ (fun a c' h => h) ?_
    · exact (ask_outside (q := .getKey) rfl).mono fun o c' h => h.1
    · exact fun e c' h => ensuresOn_raise (S := sqlSignature) _ h
  · exact fun a c' h => ensuresOn_ofReply (S := sqlSignature) (fun _ _ => h) fun _ _ => h
  · exact fun e c' h => h

/-- Whatever fails on the way, a constructor leaves the file as it was or opens it. -/
theorem construct_ended (r : Repository) (db : Database) :
    EnsuresOn (Serves key) r.construct ⟨db, none⟩ (Ended db (Opened r db)) := by
  have hcreate (hnone : db.table? r.tableName = none) (hversion : db.userVersion = 0) :
      EnsuresOn (Serves key) (createSchema r.created r.schemaVersion) ⟨db, some db⟩
        (Inside db fun _ v => Opened r db v) := by
    refine (createSchema_inside r.created r.schemaVersion).mono fun o c' h => ?_
    cases o with
    | ret a =>
      obtain ⟨v, rfl, rfl⟩ := h
      exact ⟨_, rfl, .created hnone hversion⟩
    | raise e => exact h
  cases r with
  | audit =>
    refine loadKey_untouched.bind ?_ fun e c' h => h
    intro _ c' h
    rw [h]
    exact initializeSchema_ended (fun t ht => auditValidate_inside ht) hcreate
  | userAuth => exact initializeSchema_ended (fun t ht => userAuthValidate_inside ht) hcreate
  | vault => exact initializeSchema_ended (fun t ht => vaultValidate_inside ht) hcreate

theorem table?_createdIn {schema : TableSchema} (version : ℤ)
    (hnone : db.table? schema.name = none) :
    (createdIn db schema version).table? schema.name = some ⟨schema, []⟩ := by
  simp only [Database.table?] at hnone
  simp [createdIn, Database.create, Database.table?, List.find?_append, hnone]

/-- Every repository accepts the table that it creates, under the version it writes. -/
theorem created_accepted (r : Repository) : r.accepts r.schemaVersion r.created := by
  cases r with
  | audit => exact ⟨rfl, by decide +kernel⟩
  | userAuth => exact ⟨rfl, by decide +kernel, by decide +kernel, by decide +kernel⟩
  | vault => exact ⟨.inr rfl, by decide +kernel⟩

theorem created_name (r : Repository) : r.created.name = r.tableName := by
  cases r <;> rfl

theorem accepts_upgraded {r : Repository} {version : ℤ} {schema : TableSchema}
    (h : r.accepts version schema) : r.accepts r.schemaVersion schema := by
  cases r with
  | audit => exact ⟨rfl, h.2⟩
  | userAuth => exact ⟨rfl, h.2⟩
  | vault => exact ⟨.inr rfl, h.2⟩

/-- The table that is served after the constructor: the old one, or an empty new one. -/
theorem Opened.table {r : Repository} (h : Opened r db db') : ∃ t,
    db'.table? r.tableName = some t ∧ r.accepts r.schemaVersion t.schema ∧
      db'.userVersion = r.schemaVersion ∧
      (db.table? r.tableName = some t ∨ db.table? r.tableName = none ∧ t = ⟨r.created, []⟩) := by
  cases h with
  | accepted htable haccepts => exact ⟨_, htable, accepts_upgraded haccepts, rfl, .inl htable⟩
  | created hnone hversion =>
    refine ⟨⟨r.created, []⟩, ?_, created_accepted r, rfl, .inr ⟨hnone, rfl⟩⟩
    rw [← created_name] at hnone ⊢
    exact table?_createdIn _ hnone

/-- No table that was there is changed. -/
theorem Opened.tables {r : Repository} (h : Opened r db db') : db.tables <+: db'.tables := by
  cases h with
  | accepted htable haccepts => exact List.prefix_rfl
  | created hnone hversion => exact List.prefix_append _ _

theorem Opened.again {r : Repository} {db'' : Database} (h : Opened r db db')
    (h' : Opened r db' db'') : db'' = db' := by
  obtain ⟨t, htable, -, hversion, -⟩ := h.table
  cases h' with
  | accepted htable' haccepts =>
    rw [← hversion]
  | created hnone hversion' =>
    rw [htable] at hnone
    cases hnone

end Repositories

section Answered

variable {key : PyValue} {c c' : Connection} {db db' : Database}

theorem execOn_ask {d : Connection} {q : SqlCall} {a : q.Answer}
    (h : answer key c q = (.ok a, d)) : execOn (answer key) (ask q) c = some (.ret a, d) :=
  execOn_perform h

theorem execOn_ask_error {d : Connection} {call : SqlCall} {e : PyExn}
    (h : answer key c call = (.error e, d)) :
    execOn (answer key) (ask call) c = some (.raise e, d) :=
  execOn_perform_raise h

/-- An open database is opened again as it is. -/
theorem execOn_initializeSchema {table : PyStr} {validate : ℤ → Sql Unit} {create : Sql Unit}
    {unsupported : PyExn} {translate : PyExn → PyExn} {t : StoredTable}
    (htable : db.table? table = some t)
    (hvalidate : execOn (answer key) (validate db.userVersion) ⟨db, some db⟩ =
      some (.ret (), ⟨db, some db⟩)) :
    execOn (answer key) (initializeSchema table validate create unsupported translate) ⟨db, none⟩ =
      some (.ret (), ⟨db, none⟩) := by
  have hcheck : execOn (answer key) (checkSchema table validate create unsupported)
      ⟨db, some db⟩ = some (.ret (), ⟨db, some db⟩) := by
    unfold checkSchema
    rw [execOn_bind _ (execOn_ask (a := db.userVersion) (d := ⟨db, some db⟩) rfl),
      execOn_bind _ (execOn_ask (a := true) (d := ⟨db, some db⟩)
        (by simp [answer, Connection.visible, htable]))]
    exact hvalidate
  have hbody : execOn (answer key) (do
      ask .beginImmediate
      checkSchema table validate create unsupported
      ask .commit) ⟨db, none⟩ = some (.ret (), ⟨db, none⟩) := by
    rw [execOn_bind _ (execOn_ask (a := ()) (d := ⟨db, some db⟩) rfl), execOn_bind _ hcheck]
    exact execOn_ask (q := .commit) (a := ()) rfl
  refine execOn_tryExcept _ ?_
  rw [execOn_bind _ (execOn_ask (a := ()) (d := ⟨db, none⟩) rfl), connected,
    execOn_bind _ (execOn_ask (a := ()) (d := ⟨db, none⟩) rfl)]
  exact execOn_tryFinally (execOn_tryExcept _ hbody)
    (execOn_ask (q := .close) (a := ()) rfl)

variable (key) in
theorem execOn_validate (r : Repository) {t : StoredTable}
    (htable : db.table? r.tableName = some t) (haccepts : r.accepts db.userVersion t.schema)
    (hversion : db.userVersion = r.schemaVersion) :
    execOn (answer key) (match r with
      | .audit => Audit.validateExistingSchema db.userVersion
      | .userAuth => UserAuth.validateExistingSchema db.userVersion
      | .vault => Vault.validateExistingSchema db.userVersion) ⟨db, some db⟩ =
      some (.ret (), ⟨db, some db⟩) := by
  cases r with
  | audit =>
    change db.table? Audit.tableName = _ at htable
    dsimp only [Audit.validateExistingSchema]
    rw [execOn_bind _ (execOn_ask (tableInfo_answer htable)), tableInfo_names, if_neg]
    · rfl
    · rw [not_or, not_not, not_not]
      exact haccepts
  | userAuth =>
    change db.table? UserAuth.tableName = _ at htable
    dsimp only [UserAuth.validateExistingSchema]
    rw [execOn_bind _ (execOn_ask (tableInfo_answer htable)),
      execOn_bind _ (execOn_ask (uniqueIndexes_answer htable)), if_neg]
    · rfl
    · rw [not_or, not_or, not_or, not_not, not_not, not_not, not_not]
      exact haccepts
  | vault =>
    have hone : db.userVersion = 1 := hversion
    change db.table? Vault.tableName = _ at htable
    dsimp only [Vault.validateExistingSchema]
    rw [execOn_bind _ (execOn_ask (tableInfo_answer htable)), if_neg, if_neg]
    · rfl
    · omega
    · rw [not_or, not_not, not_not, List.mem_pair]
      exact haccepts

/-- Only the audit repository asks for its key. -/
def KeyFor (key : PyValue) (r : Repository) : Prop :=
  r = .audit → ∃ k, AuditRepository.checkKey key = .ok k

/-- A file with an accepted table and the version of the schema is opened without a change. -/
theorem execOn_construct {r : Repository} {t : StoredTable}
    (htable : db.table? r.tableName = some t) (haccepts : r.accepts r.schemaVersion t.schema)
    (hversion : db.userVersion = r.schemaVersion) (hkey : KeyFor key r) :
    execOn (answer key) r.construct ⟨db, none⟩ = some (.ret (), ⟨db, none⟩) := by
  have hvalidate := execOn_validate key r htable (hversion ▸ haccepts) hversion
  cases r with
  | audit =>
    obtain ⟨k, hkey⟩ := hkey rfl
    have hload : execOn (answer key) Audit.loadKey ⟨db, none⟩ = some (.ret k, ⟨db, none⟩) := by
      unfold Audit.loadKey rethrowing
      rw [execOn_bind _ (execOn_tryExcept _ (execOn_ask (q := .getKey) (a := key)
        (d := ⟨db, none⟩) rfl)), lift, hkey]
      rfl
    change execOn _ (Audit.loadKey >>= _) _ = _
    rw [execOn_bind _ hload]
    exact execOn_initializeSchema htable hvalidate
  | userAuth => exact execOn_initializeSchema htable hvalidate
  | vault => exact execOn_initializeSchema htable hvalidate

/-- What a constructor has opened, the next one opens without a change. -/
theorem Opened.reopens {r : Repository} {k : Bytes} (h : Opened r db db')
    (hkey : AuditRepository.checkKey key = .ok k) :
    execOn (answer key) r.construct ⟨db', none⟩ = some (.ret (), ⟨db', none⟩) := by
  obtain ⟨t, htable, haccepts, hversion, -⟩ := h.table
  exact execOn_construct htable haccepts hversion fun _ => ⟨k, hkey⟩

end Answered

end PamMvp.AdapterSchemas
