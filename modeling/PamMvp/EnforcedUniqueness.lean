import PamMvp.AdapterSchemas
import PamMvp.AppendNeutrality
import PamMvp.ConfigurationRows

/-!
# Duplicates behind an accepted schema

The three repositories leave it to the constraints of their table to refuse a duplicate.
An accepted table has such constraints only as far as the constructor looked: the vault
insists on its primary key, the user repository on indexes that may be partial, and the
audit repository on the names of the columns.
-/
namespace PamMvp.EnforcedUniqueness
open PythonText DomainModel SqliteValues SqliteParameters InteractionPrograms SharedPrograms
  TableSchemas TableConstraints AdapterSchemas AuditEncoding RowCodecs

section Operations

/-- `with connection`. -/
def inTransaction (p : Sql Unit) : Sql Unit :=
  Prog.tryExcept (do
    p
    ask .commit) fun e => do
      ask .rollback
      throw e

/-- The `except` clauses of `SQLiteVault.store`. -/
def storeError (e : PyExn) : PyExn :=
  if e.cls = .sqliteIntegrityError then
    raised .duplicateCredentialError (py "credential id already exists")
  else if e.cls = .sqliteError then CredentialVault.vaultError "credential could not be stored"
  else e

def vaultColumns : List PyStr :=
  [py "id", py "encryption_version", py "nonce", py "ciphertext"]

def vaultParameters (ref : CredentialRef) (encrypted : CredentialVault.EncryptedSecret) :
    List PyValue :=
  [.str ref.id, .int encrypted.version, .bytes encrypted.nonce, .bytes encrypted.ciphertext]

/-- `SQLiteVault.store`, with what the cipher makes of the plaintext. -/
def store (encrypted : Except PyExn CredentialVault.EncryptedSecret) (ref : CredentialRef) :
    Sql Unit := do
  let encrypted ←
    lift (CredentialVault.catchException "credential could not be encrypted" encrypted)
  rethrowing (connected (inTransaction
    (ask (.insert Vault.tableName vaultColumns (vaultParameters ref encrypted))))) storeError

def userNotCreated : PyExn := raised .userAuthStorageError (py "PAM user could not be created")

def duplicateUsername : PyExn := raised .duplicateUsernameError (py "PAM username already exists")

def duplicateUserId : PyExn := raised .duplicateUserIdError (py "PAM user id already exists")

/-- The `except` clauses of `create_user`. -/
def createError (e : PyExn) : PyExn :=
  if e.cls = .sqliteIntegrityError then
    if py "pam_users.username" <:+: e.message then duplicateUsername
    else if py "pam_users.id" <:+: e.message then duplicateUserId
    else userNotCreated
  else if e.cls = .sqliteError then userNotCreated
  else e

def checkHash : Except PyExn PyValue → Except PyExn PyStr
  | .error e => .error (if e.isException then userNotCreated else e)
  | .ok (.str encodedHash) =>
    if (py "$argon2id$").isPrefixOf encodedHash then .ok encodedHash else .error userNotCreated
  | .ok _ => .error userNotCreated

def userColumns : List PyStr := [py "id", py "username", py "password_hash", py "enabled"]

def userParameters (user : User) (encodedHash : PyStr) : List PyValue :=
  [.str user.id, .str user.username, .str encodedHash, ConfigurationRows.flagValue user.isActive]

/-- `SQLiteUserAuthRepository.create_user`, with what the hasher makes of the password. -/
def createUser (user : User) (hash : Except PyExn PyValue) : Sql Unit := do
  let _ ← lift (ConfigurationRows.serializeUser user)
  let encodedHash ← lift (checkHash hash)
  rethrowing (connected (inTransaction
    (ask (.insert UserAuth.tableName userColumns (userParameters user encodedHash))))) createError

/-- The columns that the `INSERT` of a repository names. -/
def insertColumns : Repository → List PyStr
  | .audit => Audit.schemaColumns
  | .userAuth => userColumns
  | .vault => vaultColumns

/-- The row of the largest number, whichever the statement picks among several. -/
abbrev HeadChoice : Type := List (List SqlValue) → Option (List SqlValue)

/-- `SELECT sequence_no, event_mac ... ORDER BY sequence_no DESC LIMIT 1`. -/
def readHead (pick : HeadChoice) (db : Database) : Except PyExn (Option (List PyValue)) :=
  match db.table? Audit.tableName with
  | none => .error (sqliteFailure "no such table: audit_events")
  | some t =>
    match pick t.rows with
    | none => .ok none
    | some row =>
      let names := t.schema.columnNames
      (fetchTuple [valueOf names row (py "sequence_no"),
        valueOf names row (py "event_mac")]).map some

/-- The calls of `append` on a file with any table. -/
def auditAnswer (key : PyValue) (pick : HeadChoice) (c : Connection) :
    (call : AuditRepository.AuditCall) →
      Reply AuditRepository.auditSignature call × Connection
  | .getKey => answer key c .getKey
  | .connect => answer key c .connect
  | .beginImmediate => answer key c .beginImmediate
  | .selectHead => (readHead pick c.visible, c)
  | .insert row => answer key c (.insert Audit.tableName Audit.schemaColumns row.values)
  | .commit => answer key c .commit
  | .rollback => answer key c .rollback
  | .selectRows => (.error (sqliteFailure "not part of append"), c)
  | .close => answer key c .close

/-- A call of a repository, with what its collaborators answer. -/
inductive Operation : Repository → Type where
  | append (key : PyValue) (event : AppendArgument) : Operation .audit
  | createUser (user : User) (hash : Except PyExn PyValue) : Operation .userAuth
  | store (encrypted : Except PyExn CredentialVault.EncryptedSecret) (ref : CredentialRef) :
    Operation .vault

def result {S : Signature} : Outcome S Unit → Except S.Exn Unit
  | .ret _ => .ok ()
  | .raise e => .error e

/-- The result of an operation and the file after it. -/
def Operation.perform (pick : HeadChoice) (db : Database) :
    {r : Repository} → Operation r → Option (Except PyExn Unit × Database)
  | _, .append key event =>
    (execOn (auditAnswer key pick) (AuditRepository.append event) ⟨db, none⟩).map
      fun out => (result out.1, out.2.committed)
  | _, .createUser user hash =>
    (execOn (answer .none) (EnforcedUniqueness.createUser user hash) ⟨db, none⟩).map
      fun out => (result out.1, out.2.committed)
  | _, .store encrypted ref =>
    (execOn (answer .none) (EnforcedUniqueness.store encrypted ref) ⟨db, none⟩).map
      fun out => (result out.1, out.2.committed)

/-- The file after some operations. -/
def after (pick : HeadChoice) {r : Repository} (operations : List (Operation r))
    (db : Database) : Database :=
  operations.foldl (fun db op => ((op.perform pick db).map Prod.snd).getD db) db

end Operations

section Purpose

/-- A row of the table has this text in the column. -/
def Holds (t : StoredTable) (column text : PyStr) : Prop :=
  encodable text = true ∧ ∃ c w, t.schema.columns[t.schema.columnNames.idxOf column]? = some c ∧
    c.converts (.text (utf8 text)) = some w ∧
    ∃ r ∈ t.rows, valueOf t.schema.columnNames r column = w

/-- The operation comes as far as the `INSERT` of these values: its arguments and what its
collaborators answer are what it requires, and for an event so is the head of the chain. -/
def Operation.Inserts (pick : HeadChoice) (db : Database) :
    {r : Repository} → Operation r → List PyValue → Prop
  | _, .append key event, values => ∃ k fields head row, AuditRepository.checkKey key = .ok k ∧
      serialize event = .ok fields ∧ readHead pick db = .ok head ∧
      AuditRepository.nextColumns k fields head = .ok row ∧ values = row.values
  | _, .createUser user hash, values => ∃ encodedHash, ConfigurationRows.serializeUser user =
      .ok (user.id, user.username) ∧ checkHash hash = .ok encodedHash ∧
      values = userParameters user encodedHash
  | _, .store encrypted ref, values => ∃ secret, encrypted = .ok secret ∧
      values = vaultParameters ref secret

/-- The repository takes an `IntegrityError` with the message for a duplicate; `create_user`
looks for its columns in it. -/
def Reported : Repository → PyStr → Prop
  | .userAuth, message =>
    py "pam_users.username" <:+: message ∨ py "pam_users.id" <:+: message
  | .audit, _ | .vault, _ => True

/-- A constraint allows every value of the column once. -/
def Guarded (schema : TableSchema) (column : PyStr) : Prop :=
  ∃ c ∈ schema.constraints, c.Guards schema.columnNames column

end Purpose

section Definitions

variable {schema : TableSchema}

theorem columnNames_of_definition {definition : List Column}
    (h : schema.tableInfo.map Column.entry = definition) :
    schema.columnNames = definition.map Column.name := by
  simp [← h, TableSchema.tableInfo, TableSchema.columnNames, Column.entry]

/-- The names of the columns of an accepted table, as its `INSERT` lists them. -/
theorem columnNames_of_accepts {r : Repository} {version : ℤ} (h : r.accepts version schema) :
    schema.columnNames = insertColumns r := by
  cases r with
  | audit => exact h.2
  | userAuth => exact (columnNames_of_definition h.2.1).trans rfl
  | vault => exact (columnNames_of_definition h.2).trans rfl

end Definitions

section Effects

variable {pick : HeadChoice} {key : PyValue} {db : Database} {r : Repository}

/-- What an operation makes of the file, as one step. -/
def Operation.effect (pick : HeadChoice) (db : Database) :
    {r : Repository} → Operation r → Except PyExn Database
  | _, .append key event => do
    let fields ← serialize event
    let k ← AuditRepository.checkKey key
    (do
      let head ← readHead pick db
      let row ← AuditRepository.nextColumns k fields head
      db.insert Audit.tableName Audit.schemaColumns row.values).mapError AuditRepository.appendError
  | _, .createUser user hash => do
    let _ ← ConfigurationRows.serializeUser user
    let encodedHash ← checkHash hash
    (db.insert UserAuth.tableName userColumns (userParameters user encodedHash)).mapError
      createError
  | _, .store encrypted ref => do
    let encrypted ← CredentialVault.catchException "credential could not be encrypted" encrypted
    (db.insert Vault.tableName vaultColumns (vaultParameters ref encrypted)).mapError storeError

/-- The outcome and the connection after a statement with this effect. -/
def settled (S : Signature) (db : Database) (r : Except S.Exn Database) :
    Outcome S Unit × Connection :=
  match r with
  | .ok db' => (.ret (), ⟨db', none⟩)
  | .error e => (.raise e, ⟨db, none⟩)

theorem execOn_inserted (table : PyStr) (columns : List PyStr) (values : List PyValue) :
    execOn (answer key) (connected (inTransaction (ask (.insert table columns values))))
      ⟨db, none⟩ =
      some (settled sqlSignature db (db.insert table columns values)) := by
  rw [connected, execOn_bind _ (execOn_ask (a := ()) (d := ⟨db, none⟩) rfl)]
  cases hinsert : db.insert table columns values with
  | ok db' =>
    refine execOn_tryFinally (s := ⟨db', none⟩) (execOn_tryExcept _ ?_)
      (execOn_ask (q := .close) (a := ()) rfl)
    rw [execOn_bind _ (execOn_ask (a := ()) (d := ⟨db, some db'⟩)
      (by simp [answer, Connection.visible, hinsert]))]
    exact execOn_ask (q := .commit) (a := ()) rfl
  | error e =>
    refine execOn_tryFinally (s := ⟨db, none⟩) ?_ (execOn_ask (q := .close) (a := ()) rfl)
    rw [inTransaction, execOn_tryExcept_raise _ (execOn_bind_raise _ (execOn_ask_error
      (e := e) (d := ⟨db, some db⟩) (by simp [answer, Connection.visible, hinsert]))),
      execOn_bind _ (execOn_ask (a := ()) (d := ⟨db, none⟩) rfl)]
    rfl

theorem execOn_rethrown {p : Sql Unit} {effect : Except PyExn Database} (translate : PyExn → PyExn)
    (hp : execOn (answer key) p ⟨db, none⟩ = some (settled sqlSignature db effect)) :
    execOn (answer key) (rethrowing p translate) ⟨db, none⟩ =
      some (settled sqlSignature db (effect.mapError translate)) := by
  cases effect with
  | ok db' => exact execOn_tryExcept _ hp
  | error e => exact execOn_tryExcept_raise _ hp

variable (pick) in
theorem execOn_store (encrypted : Except PyExn CredentialVault.EncryptedSecret)
    (ref : CredentialRef) :
    execOn (answer key) (EnforcedUniqueness.store encrypted ref) ⟨db, none⟩ =
      some (settled sqlSignature db ((Operation.store encrypted ref).effect pick db)) := by
  rw [EnforcedUniqueness.store, lift, execOn_ofReply]
  simp only [Operation.effect]
  cases CredentialVault.catchException "credential could not be encrypted" encrypted with
  | error e => rfl
  | ok secret => exact execOn_rethrown storeError (execOn_inserted _ _ _)

variable (pick) in
theorem execOn_createUser (user : User) (hash : Except PyExn PyValue) :
    execOn (answer key) (EnforcedUniqueness.createUser user hash) ⟨db, none⟩ =
      some (settled sqlSignature db ((Operation.createUser user hash).effect pick db)) := by
  rw [EnforcedUniqueness.createUser, lift, execOn_ofReply]
  simp only [Operation.effect]
  cases ConfigurationRows.serializeUser user with
  | error e => rfl
  | ok fields =>
    dsimp only
    rw [lift, execOn_ofReply]
    cases checkHash hash with
    | error e => rfl
    | ok encodedHash => exact execOn_rethrown createError (execOn_inserted _ _ _)

section Append

theorem execOn_auditAsk {c d : Connection} {q : AuditRepository.AuditCall} {a : q.Answer}
    (h : auditAnswer key pick c q = (.ok a, d)) :
    execOn (auditAnswer key pick) (AuditRepository.ask q) c = some (.ret a, d) :=
  execOn_perform h

theorem execOn_auditAsk_error {c d : Connection} {call : AuditRepository.AuditCall} {e : PyExn}
    (h : auditAnswer key pick c call = (.error e, d)) :
    execOn (auditAnswer key pick) (AuditRepository.ask call) c = some (.raise e, d) :=
  execOn_perform_raise h

/-- What the transaction of `append` makes of the file. -/
def appendEffect (pick : HeadChoice) (db : Database) (k : Bytes) (fields : EventFields) :
    Except PyExn Database := do
  let head ← readHead pick db
  let row ← AuditRepository.nextColumns k fields head
  db.insert Audit.tableName Audit.schemaColumns row.values

/-- A failed transaction is rolled back by the handler or, for an exception that is no
`Exception`, by closing the connection. -/
theorem execOn_auditClosed {p : AuditRepository.Audit Unit} {e : PyExn} {c : Connection}
    (hc : c.committed = db)
    (hp : execOn (auditAnswer key pick) p ⟨db, none⟩ = some (.raise e, c)) :
    execOn (auditAnswer key pick) (AuditRepository.connected (AuditRepository.rollingBack p))
      ⟨db, none⟩ = some (.raise e, ⟨db, none⟩) := by
  subst hc
  rw [AuditRepository.connected,
    execOn_bind _ (execOn_auditAsk (a := ()) (d := ⟨c.committed, none⟩) rfl)]
  cases hexception : e.isException with
  | true =>
    refine execOn_tryFinally (s := ⟨c.committed, none⟩) ?_
      (execOn_auditAsk (q := .close) (a := ()) rfl)
    rw [AuditRepository.rollingBack, execOn_tryExcept_raise _ hp]
    simp only [hexception, if_true]
    rw [execOn_bind _ (execOn_auditAsk (a := ()) (d := ⟨c.committed, none⟩) rfl)]
    rfl
  | false =>
    refine execOn_tryFinally (s := c) ?_ (execOn_auditAsk (q := .close) (a := ()) rfl)
    rw [AuditRepository.rollingBack, execOn_tryExcept_raise _ hp]
    simp only [hexception, Bool.false_eq_true, if_false]
    rfl

variable (key pick db) in
theorem execOn_appendRow (k : Bytes) (fields : EventFields) :
    execOn (auditAnswer key pick) (AuditRepository.connected (AuditRepository.rollingBack
      (AuditRepository.appendRow k fields))) ⟨db, none⟩ =
      some (settled AuditRepository.auditSignature db (appendEffect pick db k fields)) := by
  have hbegin : execOn (auditAnswer key pick) (AuditRepository.ask .beginImmediate) ⟨db, none⟩ =
      some (.ret (), ⟨db, some db⟩) := execOn_auditAsk (q := .beginImmediate) (a := ()) rfl
  unfold appendEffect
  cases hhead : readHead pick db with
  | error e =>
    refine execOn_auditClosed (c := ⟨db, some db⟩) rfl ?_
    rw [AuditRepository.appendRow, execOn_bind _ hbegin]
    exact execOn_bind_raise _
      (execOn_auditAsk_error (by simp [auditAnswer, Connection.visible, hhead]))
  | ok head =>
    have hselect : execOn (auditAnswer key pick) (AuditRepository.ask .selectHead) ⟨db, some db⟩ =
        some (.ret head, ⟨db, some db⟩) :=
      execOn_auditAsk (q := .selectHead) (a := head)
        (by simp [auditAnswer, Connection.visible, hhead])
    cases hrow : AuditRepository.nextColumns k fields head with
    | error e =>
      simp only [bind, Except.bind, hrow]
      refine execOn_auditClosed (c := ⟨db, some db⟩) rfl ?_
      rw [AuditRepository.appendRow, execOn_bind _ hbegin, execOn_bind _ hselect,
        AuditRepository.lift, execOn_ofReply, hrow]
    | ok row =>
      cases hinsert : db.insert Audit.tableName Audit.schemaColumns row.values with
      | error e =>
        simp only [bind, Except.bind, hrow, hinsert]
        refine execOn_auditClosed (c := ⟨db, some db⟩) rfl ?_
        rw [AuditRepository.appendRow, execOn_bind _ hbegin, execOn_bind _ hselect,
          AuditRepository.lift, execOn_ofReply, hrow]
        exact execOn_bind_raise _ (execOn_auditAsk_error
          (by simp [auditAnswer, answer, Connection.visible, hinsert]))
      | ok db' =>
        simp only [bind, Except.bind, hrow, hinsert]
        rw [AuditRepository.connected,
          execOn_bind _ (execOn_auditAsk (a := ()) (d := ⟨db, none⟩) rfl)]
        refine execOn_tryFinally (s := ⟨db', none⟩) (execOn_tryExcept _ ?_)
          (execOn_auditAsk (q := .close) (a := ()) rfl)
        rw [AuditRepository.appendRow, execOn_bind _ hbegin, execOn_bind _ hselect,
          AuditRepository.lift, execOn_ofReply, hrow]
        dsimp only
        rw [execOn_bind _ (execOn_auditAsk (a := ()) (d := ⟨db, some db'⟩)
          (by simp [auditAnswer, answer, Connection.visible, hinsert]))]
        exact execOn_auditAsk (q := .commit) (a := ()) rfl

theorem execOn_append (event : AppendArgument) :
    execOn (auditAnswer key pick) (AuditRepository.append event) ⟨db, none⟩ =
      some (settled AuditRepository.auditSignature db
        ((Operation.append key event).effect pick db)) := by
  rw [AuditRepository.append, AuditRepository.lift, execOn_ofReply]
  simp only [Operation.effect]
  cases serialize event with
  | error e => rfl
  | ok fields =>
    have hkey : execOn (auditAnswer key pick)
        (AuditRepository.rethrowing (AuditRepository.ask .getKey) AuditRepository.keyNotLoaded)
        ⟨db, none⟩ = some (.ret key, ⟨db, none⟩) :=
      execOn_tryExcept _ (execOn_auditAsk (q := .getKey) (a := key) rfl)
    dsimp only
    rw [AuditRepository.loadKey, bind_assoc, execOn_bind _ hkey, AuditRepository.lift,
      execOn_ofReply]
    cases AuditRepository.checkKey key with
    | error e => rfl
    | ok k =>
      change execOn _ (AuditRepository.rethrowing _ _) _ = some (settled _ db
        ((appendEffect pick db k fields).mapError AuditRepository.appendError))
      have hrow := execOn_appendRow pick key db k fields
      cases heffect : appendEffect pick db k fields with
      | ok db' =>
        rw [heffect] at hrow
        exact execOn_tryExcept _ hrow
      | error e =>
        rw [heffect] at hrow
        exact execOn_tryExcept_raise _ hrow

end Append

/-- An operation is one step: it has its effect, or it raises and leaves the file alone. -/
theorem perform_eq (op : Operation r) : op.perform pick db = some (match op.effect pick db with
    | .ok db' => (.ok (), db')
    | .error e => (.error e, db)) := by
  cases op with
  | append key event =>
    simp only [Operation.perform, execOn_append, Option.map_some]
    cases (Operation.append key event).effect pick db <;> rfl
  | createUser user hash =>
    simp only [Operation.perform, execOn_createUser pick, Option.map_some]
    cases (Operation.createUser user hash).effect pick db <;> rfl
  | store encrypted ref =>
    simp only [Operation.perform, execOn_store pick, Option.map_some]
    cases (Operation.store encrypted ref).effect pick db <;> rfl

end Effects

section Refusals

variable {pick : HeadChoice} {db db' : Database} {r : Repository} {t t' : StoredTable}

theorem table?_name {name : PyStr} (h : db.table? name = some t) : t.schema.name = name := by
  simpa using List.find?_some h

theorem table?_put {name : PyStr} (h : db.table? name = some t)
    (hname : t'.schema.name = t.schema.name) : (db.put t').table? name = some t' := by
  have hsame : t'.schema.name = name := hname.trans (table?_name h)
  simp only [Database.table?, Database.put, List.find?_map] at h ⊢
  have hpred : ((fun u : StoredTable => decide (u.schema.name = name)) ∘
      fun u => if u.schema.name = t'.schema.name then t' else u) =
      fun u => decide (u.schema.name = name) := by
    funext u
    by_cases hu : u.schema.name = name <;> simp [hsame, hu]
  rw [hpred, h]
  simp [hname]

theorem insert_ok {table : PyStr} {columns : List PyStr} {values : List PyValue}
    (h : db.insert table columns values = .ok db') : ∃ t t' stored,
      db.table? table = some t ∧ t.insert stored = .ok t' ∧ db' = db.put t' := by
  simp only [Database.insert, except_bind_ok_iff] at h
  obtain ⟨stored, -, h⟩ := h
  split at h
  · cases h
  · rename_i t htable
    split_ifs at h
    split at h
    · cases h
    · rename_i t' hinsert
      cases h
      exact ⟨t, t', stored, htable, hinsert, rfl⟩

/-- A successful operation has inserted into the table of its repository. -/
theorem effect_ok {op : Operation r} (h : op.effect pick db = .ok db') : ∃ t t' stored,
    db.table? r.tableName = some t ∧ t.insert stored = .ok t' ∧ db' = db.put t' := by
  cases op with
  | append key event =>
    simp only [Operation.effect, except_bind_ok_iff, mapError_ok_iff] at h
    obtain ⟨_, -, _, -, _, -, _, -, h⟩ := h
    exact insert_ok h
  | createUser user hash =>
    simp only [Operation.effect, except_bind_ok_iff, mapError_ok_iff] at h
    obtain ⟨_, -, _, -, h⟩ := h
    exact insert_ok h
  | store encrypted ref =>
    simp only [Operation.effect, except_bind_ok_iff, mapError_ok_iff] at h
    obtain ⟨_, -, h⟩ := h
    exact insert_ok h

/-- The file has an accepted table whose definition has `P`. -/
def Serving (r : Repository) (P : TableSchema → Prop) (db : Database) : Prop :=
  ∃ t, db.table? r.tableName = some t ∧ r.accepts r.schemaVersion t.schema ∧ P t.schema

theorem Serving.step {P : TableSchema → Prop} (h : Serving r P db) (op : Operation r) :
    Serving r P (((op.perform pick db).map Prod.snd).getD db) := by
  rw [perform_eq]
  cases heffect : op.effect pick db with
  | error e => exact h
  | ok db' =>
    obtain ⟨t, htable, haccepts, hP⟩ := h
    obtain ⟨u, u', stored, hu, hinsert, rfl⟩ := effect_ok heffect
    rw [htable] at hu
    cases hu
    have hschema := StoredTable.insert_schema hinsert
    refine ⟨u', table?_put htable (by rw [hschema]), ?_, ?_⟩
    · rwa [hschema]
    · rwa [hschema]

theorem Serving.after {P : TableSchema → Prop} (h : Serving r P db)
    (operations : List (Operation r)) : Serving r P (after pick operations db) := by
  induction operations generalizing db with
  | nil => exact h
  | cons op operations ih => exact ih (h.step op)

/-- Only one list of values is inserted. -/
theorem Operation.Inserts.unique {op : Operation r} {values values' : List PyValue}
    (h : op.Inserts pick db values) (h' : op.Inserts pick db values') : values = values' := by
  cases op with
  | append key event =>
    obtain ⟨k, fields, head, row, hkey, hfields, hhead, hrow, rfl⟩ := h
    obtain ⟨k', fields', head', row', hkey', hfields', hhead', hrow', rfl⟩ := h'
    cases hkey.symm.trans hkey'
    cases hfields.symm.trans hfields'
    cases hhead.symm.trans hhead'
    cases hrow.symm.trans hrow'
    rfl
  | createUser user hash =>
    obtain ⟨encodedHash, -, hhash, rfl⟩ := h
    obtain ⟨encodedHash', -, hhash', rfl⟩ := h'
    cases hhash.symm.trans hhash'
    rfl
  | store encrypted ref =>
    obtain ⟨secret, rfl, rfl⟩ := h
    obtain ⟨secret', hsecret, rfl⟩ := h'
    cases hsecret
    rfl

end Refusals

section Admissions

variable {pick : HeadChoice} {db : Database}

/-- Whether an operation succeeds, and one column of the table after it. -/
def observed (r : Repository) (op : Operation r) (db : Database) (column : PyStr) :
    Option (Bool × List SqlValue) :=
  (op.perform List.getLast? db).map fun out => (out.1.isOk, ((out.2.table? r.tableName).map fun t =>
    t.rows.map fun row => valueOf t.schema.columnNames row column).getD [])

end Admissions

end PamMvp.EnforcedUniqueness
