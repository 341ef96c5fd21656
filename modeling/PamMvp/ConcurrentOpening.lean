import PamMvp.EnforcedUniqueness
import PamMvp.PoolComposition
import PamMvp.TransactionPools

/-!
# Opening a database in several processes

A constructor looks at its table and creates it inside one transaction, and `store` and
`create_user` insert their row in one. So processes that open the same file at the same
time, or write to it, can be put in an order. The table is created at most once, and a
constructor that returned finds it from then on.
-/
namespace PamMvp.ConcurrentOpening
open PythonText DomainModel SqliteValues InteractionPrograms SharedPrograms EndingPrograms
  TransactionPools PoolComposition EnforcedUniqueness TableConstraints
open AdapterSchemas hiding Ending

section Sessions

/-- What a call is for the transaction. -/
def sqlKind : SqlCall → Kind
  | .getKey => .idle
  | .ensureOwnerOnlyDatabaseFile => .idle
  | .connect => .idle
  | .beginImmediate => .opening
  | .insert _ _ _ => .opening
  | .userVersion => .inner
  | .tableExists _ => .inner
  | .tableInfo _ => .inner
  | .uniqueIndexes _ => .inner
  | .createTable _ => .inner
  | .setUserVersion _ => .inner
  | .commit => .commit
  | .rollback => .rollback
  | .close => .close

def connection (x : Session Database) : Connection := ⟨x.committed, x.transaction⟩

/-- The answers that one connection may get. -/
def serveSession (key : PyValue) : Server sqlSignature (Session Database) :=
  fun x call r y => Serves key (connection x) call r (connection y)

variable {key : PyValue} {d v : Database} {c : Connection}

theorem runsOn_connection {p : Sql Unit} {o : SqlOutcome} {x y : Session Database}
    (h : RunsOn (serveSession key) p x o y) :
    RunsOn (Serves key) p (connection x) o (connection y) := by
  induction p generalizing x with
  | ret a =>
    obtain ⟨rfl, rfl⟩ := h
    exact ⟨rfl, rfl⟩
  | raise e =>
    obtain ⟨rfl, rfl⟩ := h
    exact ⟨rfl, rfl⟩
  | diverge => exact h
  | get k ih => exact ih () h
  | set m k ih => exact ih h
  | call call k ih =>
    obtain ⟨r, z, hserve, hrest⟩ := h
    exact ⟨r, connection z, hserve, ih r hrest⟩

/-- A call that is answered in the same way whatever is committed. -/
theorem serves_steady {call : SqlCall} {a : Reply sqlSignature call}
    (hanswer : ∀ d, answer key ⟨d, none⟩ call = (a, ⟨d, none⟩)) {r : Reply sqlSignature call}
    (h : Serves key ⟨d, none⟩ call r c) :
    c = ⟨d, none⟩ ∧ ∀ d', Serves key ⟨d', none⟩ call r ⟨d', none⟩ := by
  cases h with
  | answered =>
    rw [hanswer]
    refine ⟨rfl, fun d' => ?_⟩
    have hserves : Serves key ⟨d', none⟩ call _ _ := .answered call
    rwa [hanswer] at hserves
  | failed hcall e => exact ⟨rfl, fun d' => .failed hcall e⟩
  | rolledBack hcall e => exact ⟨rfl, fun d' => .rolledBack hcall e⟩

/-- Inside of a transaction only a commit changes the file. -/
theorem answer_keeps {call : SqlCall} (hcall : sqlKind call ≠ .commit) :
    (answer key ⟨d, some v⟩ call).2.committed = d := by
  cases call with
  | commit => exact absurd rfl hcall
  | createTable schema =>
    simp only [answer]
    split_ifs <;> simp [Connection.write]
  | insert table columns values =>
    simp only [answer]
    split <;> rfl
  | _ => simp [answer, Connection.write]

theorem answer_stays {call : SqlCall} (hcall : sqlKind call = .opening ∨ sqlKind call = .inner) :
    (answer key ⟨d, some v⟩ call).2.transaction ≠ none := by
  cases call with
  | createTable schema =>
    simp only [answer]
    split_ifs <;> simp [Connection.write]
  | insert table columns values =>
    simp only [answer]
    split <;> simp
  | beginImmediate => simp [answer]
  | setUserVersion version => simp [answer, Connection.write]
  | userVersion => simp [answer]
  | tableExists name => simp [answer]
  | tableInfo name => simp [answer]
  | uniqueIndexes name => simp [answer]
  | _ => simp [sqlKind] at hcall

theorem answer_opens {call : SqlCall} (hcall : sqlKind call = .opening) :
    (answer key ⟨d, none⟩ call).2.committed = d ∧
      (answer key ⟨d, none⟩ call).2.transaction ≠ none := by
  cases call with
  | beginImmediate => simp [answer]
  | insert table columns values =>
    simp only [answer]
    split <;> simp
  | _ => cases hcall

theorem not_serves_close_error (e : PyExn) {c c' : Connection} :
    ¬ Serves key c .close (.error e) c' := by
  intro h
  generalize hr : (.error e : Reply sqlSignature .close) = r at h
  cases h with
  | answered => cases hr
  | failed hcall e => exact hcall rfl
  | rolledBack hcall e => exact hcall rfl

/-- The connections to a file are sessions with transactions. -/
theorem serveSession_transactional (key : PyValue) :
    Transactional (serveSession key) sqlKind where
  steady call d r x hkind h := by
    have hsame : x = ⟨d, none⟩ ↔ connection x = ⟨d, none⟩ := by
      obtain ⟨committed, transaction⟩ := x
      simp [connection]
    rw [hsame]
    cases call with
    | getKey => exact serves_steady (a := .ok key) (fun _ => rfl) h
    | ensureOwnerOnlyDatabaseFile => exact serves_steady (a := .ok ()) (fun _ => rfl) h
    | connect => exact serves_steady (a := .ok ()) (fun _ => rfl) h
    | rollback => exact serves_steady (a := .ok ()) (fun _ => rfl) h
    | close => exact serves_steady (a := .ok ()) (fun _ => rfl) h
    | _ => simp [sqlKind] at hkind
  opens call d r x hkind h := by
    cases r with
    | ok a =>
      have hanswer : answer key ⟨d, none⟩ call = (.ok a, connection x) := serves_ok h
      have hopens : (answer key ⟨d, none⟩ call).2.committed = d ∧ _ := answer_opens hkind
      rw [hanswer] at hopens
      exact ⟨hopens.1, fun _ => hopens.2⟩
    | error e => exact ⟨serves_error h, nofun⟩
  keeps call d v r x hkind h := by
    cases r with
    | ok a =>
      have hanswer : answer key ⟨d, some v⟩ call = (.ok a, connection x) := serves_ok h
      have hkeeps : (answer key ⟨d, some v⟩ call).2.committed = d := answer_keeps hkind
      rw [hanswer] at hkeeps
      exact hkeeps
    | error e => exact serves_error h
  stays call d v r x hkind h hok := by
    cases r with
    | ok a =>
      have hanswer : answer key ⟨d, some v⟩ call = (.ok a, connection x) := serves_ok h
      have hstays : (answer key ⟨d, some v⟩ call).2.transaction ≠ none := answer_stays hkind
      rw [hanswer] at hstays
      exact hstays
    | error e => cases hok
  commits call d v r x hkind h := by
    cases call with
    | commit =>
      cases r with
      | ok a => exact (congrArg (fun out => out.2.transaction) (serves_ok h)).symm
      | error e => exact serves_error h
    | _ => cases hkind
  closes call x r y hkind h := by
    cases call with
    | close =>
      cases r with
      | ok a => exact ⟨rfl, (congrArg (fun out => out.2.transaction) (serves_ok h)).symm⟩
      | error e => exact absurd h (not_serves_close_error e)
    | _ => cases hkind
  answered x call :=
    ⟨(answer key (connection x) call).1, ⟨(answer key (connection x) call).2.committed,
      (answer key (connection x) call).2.transaction⟩, .answered call⟩

end Sessions

section Disciplines

/-- The phases in which a part of a transaction ends. -/
def Within {α : Type} (φ : Phase) : Outcome sqlSignature α → Prop
  | .ret _ => φ = .inside
  | .raise _ => φ = .inside ∨ φ = .ending false

/-- The phases in which a whole transaction ends, before the connection is closed. -/
def Left (φ : Phase) : SqlOutcome → Prop
  | .ret _ => φ = .ending true
  | .raise _ => φ = .inside ∨ φ = .ending false

variable {α β : Type} {φ : Phase}

theorem ask_within {call : SqlCall} (hcall : sqlKind call = .inner) :
    Follows (discipline sqlKind) Within (ask call) .inside := by
  refine Follows.perform (by simp [discipline, hcall]) (fun a => ?_) fun e => ?_
  · simp [Within, discipline, hcall, Except.isOk, Except.toBool]
  · simp [Within, discipline, hcall, Except.isOk, Except.toBool]

theorem throw_within (e : PyExn) :
    Follows (discipline sqlKind) Within (throw e : Sql α) .inside := Or.inl rfl

theorem pure_within (a : α) :
    Follows (discipline sqlKind) Within (pure a : Sql α) .inside := Eq.refl Phase.inside

theorem Within.bind {p : Sql α} {f : α → Sql β} (hp : Follows (discipline sqlKind) Within p φ)
    (hf : ∀ a, Follows (discipline sqlKind) Within (f a) .inside) :
    Follows (discipline sqlKind) Within (p >>= f) φ := by
  refine hp.bind (fun φ' a hφ => ?_) fun φ' e hφ => hφ
  have hinside : φ' = .inside := hφ
  rw [hinside]
  exact hf a

theorem opening_within {call : SqlCall} (hcall : sqlKind call = .opening) :
    Follows (discipline sqlKind) Within (ask call) .outside := by
  refine Follows.perform (.inr hcall) (fun a => ?_) fun e => ?_
  · simp [Within, discipline, hcall, Except.isOk, Except.toBool]
  · simp [Within, discipline, hcall, Except.isOk, Except.toBool]

/-- The commit at the end of a transaction. -/
theorem commit_left {p : Sql Unit} (hp : Follows (discipline sqlKind) Within p φ) :
    Follows (discipline sqlKind) Left (do p; ask .commit) φ := by
  refine hp.bind (fun φ' a hφ => ?_) fun φ' e hφ => ?_
  · have hinside : φ' = .inside := hφ
    rw [hinside]
    refine Follows.perform (by simp [discipline, sqlKind]) (fun a => ?_) fun e => ?_
    · simp [Left, discipline, sqlKind, Except.isOk, Except.toBool]
    · simp [Left, discipline, sqlKind, Except.isOk, Except.toBool]
  · exact hφ

theorem rollback_left {e : PyExn} (h : Left φ (.raise e)) :
    Follows (discipline sqlKind) Left (do ask .rollback; throw e) φ := by
  have hperform : Follows (discipline sqlKind) (fun φ _ => φ = .ending false)
      (ask .rollback) φ := by
    rcases h with rfl | rfl
    all_goals
      refine Follows.perform (by simp [discipline, sqlKind]) (fun a => ?_) fun e => ?_
      · simp [discipline, sqlKind]
      · simp [discipline, sqlKind]
  exact hperform.bind (fun φ' a hφ => .inr hφ) fun φ' e hφ => .inr hφ

/-- A transaction on a connection that is closed after it. -/
theorem connected_finished {p : Sql Unit} (hp : Follows (discipline sqlKind) Left p .outside) :
    Follows (discipline sqlKind) Finished (connected p) .outside := by
  have hconnect : Follows (discipline sqlKind) (fun φ _ => φ = .outside) (ask .connect) .outside :=
    Follows.perform (.inl rfl) (fun a => rfl) fun e => rfl
  refine hconnect.bind (fun φ a hφ => ?_) fun φ e hφ => ?_
  · rw [hφ]
    refine hp.tryFinally fun φ' o hleft => ?_
    cases o with
    | ret a =>
      have hended : φ' = .ending true := hleft
      rw [hended]
      exact Follows.perform (.inr rfl) (fun _ => ⟨a, rfl⟩) fun _ => trivial
    | raise e =>
      rcases hleft with rfl | rfl
      · refine Follows.perform (by simp [discipline, sqlKind]) (fun _ => ?_) fun _ => trivial
        exact ⟨e, rfl⟩
      · exact Follows.perform (.inr rfl) (fun _ => ⟨e, rfl⟩) fun _ => trivial
  · rw [hφ]
    exact ⟨e, rfl⟩

theorem rethrowing_finished {p : Sql Unit} {translate : PyExn → PyExn}
    (hp : Follows (discipline sqlKind) Finished p .outside) :
    Follows (discipline sqlKind) Finished (rethrowing p translate) .outside := by
  refine hp.tryExcept (fun φ a hφ => hφ) fun φ e hφ => ?_
  cases φ with
  | outside => exact ⟨_, rfl⟩
  | closed committed =>
    cases committed with
    | false => exact ⟨_, rfl⟩
    | true =>
      obtain ⟨a, hret⟩ := hφ
      cases hret
  | inside => exact hφ.elim
  | ending committed => exact hφ.elim
  | unreachable => trivial

theorem initializeSchema_finished {table : PyStr} {validate : ℤ → Sql Unit} {create : Sql Unit}
    {unsupported : PyExn} {translate : PyExn → PyExn}
    (hvalidate : ∀ version, Follows (discipline sqlKind) Within (validate version) .inside)
    (hcreate : Follows (discipline sqlKind) Within create .inside) :
    Follows (discipline sqlKind) Finished
      (initializeSchema table validate create unsupported translate) .outside := by
  have hcheck : Follows (discipline sqlKind) Within
      (checkSchema table validate create unsupported) .inside := by
    refine Within.bind (ask_within rfl) fun version => ?_
    refine Within.bind (ask_within rfl) fun tableExists => ?_
    split_ifs
    · exact hvalidate version
    · exact hcreate
    · exact throw_within unsupported
  have hbody : Follows (discipline sqlKind) Left (rollingBack do
      ask .beginImmediate
      checkSchema table validate create unsupported
      ask .commit) .outside := by
    have hbegin : Follows (discipline sqlKind) Within (ask .beginImmediate) .outside :=
      opening_within rfl
    refine Follows.tryExcept (Q := Left) ?_ (fun φ a hφ => hφ) fun φ e hφ => ?_
    · refine hbegin.bind (fun φ a hφ => ?_) fun φ e hφ => hφ
      have hinside : φ = .inside := hφ
      rw [hinside]
      exact commit_left hcheck
    · split_ifs
      · exact rollback_left hφ
      · exact hφ
  apply rethrowing_finished
  have hensure : Follows (discipline sqlKind) (fun φ _ => φ = .outside)
      (ask .ensureOwnerOnlyDatabaseFile) .outside :=
    Follows.perform (.inl rfl) (fun a => rfl) fun e => rfl
  refine hensure.bind (fun φ a hφ => ?_) fun φ e hφ => ?_
  · rw [hφ]
    exact connected_finished hbody
  · rw [hφ]
    exact ⟨e, rfl⟩

theorem createSchema_within (schema : TableSchema) (version : ℤ) :
    Follows (discipline sqlKind) Within (createSchema schema version) .inside :=
  Within.bind (ask_within rfl) fun _ => ask_within rfl

theorem audit_validate_within (version : ℤ) :
    Follows (discipline sqlKind) Within (Audit.validateExistingSchema version) .inside := by
  refine Within.bind (ask_within rfl) fun info => ?_
  dsimp only
  split_ifs
  · exact throw_within _
  · exact pure_within _

theorem userAuth_validate_within (version : ℤ) :
    Follows (discipline sqlKind) Within (UserAuth.validateExistingSchema version) .inside := by
  refine Within.bind (ask_within rfl) fun info => ?_
  refine Within.bind (ask_within rfl) fun unique => ?_
  split_ifs
  · exact throw_within _
  · exact pure_within _

theorem vault_validate_within (version : ℤ) :
    Follows (discipline sqlKind) Within (Vault.validateExistingSchema version) .inside := by
  refine Within.bind (ask_within rfl) fun info => ?_
  dsimp only
  split_ifs
  · exact throw_within _
  · exact ask_within rfl
  · exact pure_within _

theorem loadKey_outside :
    Follows (discipline sqlKind) (fun φ _ => φ = .outside) Audit.loadKey .outside := by
  refine Follows.bind (Q := fun φ _ => φ = .outside) ?_ (fun φ a hφ => ?_) fun φ e hφ => hφ
  · have hgetKey : Follows (discipline sqlKind) (fun φ _ => φ = .outside) (ask .getKey) .outside :=
      Follows.perform (.inl rfl) (fun a => rfl) fun e => rfl
    refine hgetKey.tryExcept (fun φ a hφ => hφ) fun φ e hφ => ?_
    exact hφ
  · exact Follows.ofReply (fun a _ => hφ) fun e _ => hφ

theorem construct_finished (r : Repository) :
    Follows (discipline sqlKind) Finished r.construct .outside := by
  cases r with
  | audit =>
    refine loadKey_outside.bind (fun φ a hφ => ?_) fun φ e hφ => ?_
    · rw [hφ]
      exact initializeSchema_finished audit_validate_within (createSchema_within _ _)
    · rw [hφ]
      exact ⟨e, rfl⟩
  | userAuth => exact initializeSchema_finished userAuth_validate_within (createSchema_within _ _)
  | vault => exact initializeSchema_finished vault_validate_within (createSchema_within _ _)

/-- The `INSERT` of one row. -/
theorem inserted_finished (table : PyStr) (columns : List PyStr) (values : List PyValue)
    (translate : PyExn → PyExn) : Follows (discipline sqlKind) Finished
      (rethrowing (connected (inTransaction (ask (.insert table columns values)))) translate)
      .outside := by
  apply rethrowing_finished
  apply connected_finished
  refine Follows.tryExcept (Q := Left) ?_ (fun φ a hφ => hφ) fun φ e hφ => rollback_left hφ
  exact commit_left (opening_within rfl)

theorem lift_outside {r : Except PyExn α} :
    Follows (discipline sqlKind) (fun φ _ => φ = .outside) (lift r) .outside :=
  Follows.ofReply (fun _ _ => rfl) fun _ _ => rfl

theorem createUser_finished (user : User) (hash : Except PyExn PyValue) :
    Follows (discipline sqlKind) Finished (createUser user hash) .outside := by
  refine lift_outside.bind (fun φ fields hφ => ?_) fun φ e hφ => ?_
  · rw [hφ]
    refine lift_outside.bind (fun φ encodedHash hφ => ?_) fun φ e hφ => ?_
    · rw [hφ]
      exact inserted_finished _ _ _ _
    · rw [hφ]
      exact ⟨e, rfl⟩
  · rw [hφ]
    exact ⟨e, rfl⟩

end Disciplines

section Endings

variable {α : Type}

theorem ending_ask (call : SqlCall) : Ending (ask call) :=
  ending_perform (S := sqlSignature) call

theorem ending_throw (e : PyExn) : Ending (throw e : Sql α) :=
  .raise (S := sqlSignature) e

theorem ending_lift (r : Except PyExn α) : Ending (lift r) :=
  ending_ofReply (S := sqlSignature) r

theorem ending_rethrowing {p : Sql α} (hp : Ending p) (translate : PyExn → PyExn) :
    Ending (rethrowing p translate) :=
  hp.tryExcept fun e => ending_throw (translate e)

theorem ending_connected {p : Sql Unit} (hp : Ending p) : Ending (connected p) :=
  (ending_ask .connect).bind fun _ => hp.tryFinally (ending_ask .close)

theorem ending_initializeSchema {table : PyStr} {validate : ℤ → Sql Unit} {create : Sql Unit}
    {unsupported : PyExn} {translate : PyExn → PyExn}
    (hvalidate : ∀ version, Ending (validate version)) (hcreate : Ending create) :
    Ending (initializeSchema table validate create unsupported translate) := by
  have hcheck : Ending (checkSchema table validate create unsupported) := by
    refine (ending_ask .userVersion).bind fun version => ?_
    refine (ending_ask (.tableExists table)).bind fun tableExists => ?_
    split_ifs
    · exact hvalidate version
    · exact hcreate
    · exact ending_throw unsupported
  have hbody : Ending (rollingBack do
      ask .beginImmediate
      checkSchema table validate create unsupported
      ask .commit) := by
    refine Ending.tryExcept ?_ fun e => ?_
    · exact (ending_ask .beginImmediate).bind fun _ => hcheck.bind fun _ => ending_ask .commit
    · split_ifs
      · exact (ending_ask .rollback).bind fun _ => ending_throw e
      · exact ending_throw e
  apply ending_rethrowing
  exact (ending_ask .ensureOwnerOnlyDatabaseFile).bind fun _ => ending_connected hbody

theorem ending_createSchema (schema : TableSchema) (version : ℤ) :
    Ending (createSchema schema version) :=
  (ending_ask (.createTable schema)).bind fun _ => ending_ask (.setUserVersion version)

theorem ending_construct (r : Repository) : Ending r.construct := by
  cases r with
  | audit =>
    have hload : Ending Audit.loadKey :=
      (ending_rethrowing (ending_ask .getKey) _).bind fun key => ending_lift _
    refine hload.bind fun _ => ending_initializeSchema (fun version => ?_) (ending_createSchema _ _)
    refine (ending_ask (.tableInfo Audit.tableName)).bind fun info => ?_
    dsimp only
    split_ifs
    · exact ending_throw _
    · exact ending_pure _
  | userAuth =>
    refine ending_initializeSchema (fun version => ?_) (ending_createSchema _ _)
    refine (ending_ask (.tableInfo UserAuth.tableName)).bind fun info => ?_
    refine (ending_ask (.uniqueIndexes UserAuth.tableName)).bind fun unique => ?_
    split_ifs
    · exact ending_throw _
    · exact ending_pure _
  | vault =>
    refine ending_initializeSchema (fun version => ?_) (ending_createSchema _ _)
    refine (ending_ask (.tableInfo Vault.tableName)).bind fun info => ?_
    dsimp only
    split_ifs
    · exact ending_throw _
    · exact ending_ask (.setUserVersion 1)
    · exact ending_pure _

theorem construct_single (r : Repository) : SingleTransaction sqlKind r.construct :=
  ⟨construct_finished r, ending_construct r⟩

theorem createUser_single (user : User) (hash : Except PyExn PyValue) :
    SingleTransaction sqlKind (createUser user hash) := by
  refine ⟨createUser_finished user hash, ?_⟩
  refine (ending_lift _).bind fun fields => (ending_lift _).bind fun encodedHash => ?_
  apply ending_rethrowing
  apply ending_connected
  refine Ending.tryExcept ?_ fun e => (ending_ask .rollback).bind fun _ => ending_throw e
  exact (ending_ask _).bind fun _ => ending_ask .commit

end Endings

section Race

variable {W τ : Type} {key : PyValue} {r : Repository} {db now : Database}

/-- The constructors of one repository, each in a process of its own. -/
abbrev OpeningRuns [DecidableEq W] (key : PyValue) (r : Repository) (db : Database)
    (trace : List (Label sqlSignature W τ Unit))
    (pool : Pool sqlSignature W (Store W Database) τ Unit) : Prop :=
  PoolRuns (fun _ => r.construct) (Shares (serveSession key)) Store.crash ⟨db, none⟩ trace pool

theorem construct_run {a : Unit} {d d' : Database}
    (h : RunsOn (serveSession key) r.construct ⟨d, none⟩ (.ret a) ⟨d', none⟩) : Opened r d d' := by
  obtain ⟨db', hsame, hopened⟩ := construct_ended r d _ _ (runsOn_connection h)
  cases hsame
  exact hopened

/-- What is opened stays as it is. -/
theorem executes_opened {log : List τ} {d d' : Database}
    (h : Executes (serveSession key) (fun _ => r.construct) d log d') :
    (log = [] → d' = d) ∧ (log ≠ [] → Opened r d d') := by
  induction h with
  | nil d => exact ⟨fun _ => rfl, fun hlog => absurd rfl hlog⟩
  | @cons d d₁ d' t u log hrun _ ih =>
    have hopened := construct_run hrun
    refine ⟨nofun, fun _ => ?_⟩
    by_cases hlog : log = []
    · rw [ih.1 hlog]
      exact hopened
    · rw [hopened.again (ih.2 hlog)]
      exact hopened

/-- The file is as it was until one of the constructors commits, and opened from then on. A
constructor returns only after that. -/
theorem constructors_race [DecidableEq W] {trace : List (Label sqlSignature W τ Unit)}
    {pool : Pool sqlSignature W (Store W Database) τ Unit} (h : OpeningRuns key r db trace pool) :
    (commitLog sqlKind trace = [] → pool.shared.committed = db) ∧
    (commitLog sqlKind trace ≠ [] → Opened r db pool.shared.committed) ∧
    ∀ w t past u, .returned w t past u ∈ trace → Opened r db pool.shared.committed := by
  obtain ⟨hserial, hfinished⟩ :=
    serializable (serveSession_transactional key) (fun _ => construct_single r) h
  have hopened := executes_opened hserial.history
  refine ⟨hopened.1, hopened.2, fun w t past u hreturned => ?_⟩
  cases hfinished _ hreturned t _ (.returned w t past u) with
  | returned hlog hearlier hrun hlater =>
    apply hopened.2
    rw [hlog]
    simp

end Race

section Example

variable {W : Type} [DecidableEq W] {key : PyValue}

def locked : PyExn := sqliteFailure "database is locked"

/-- The answers while nothing fails, but that of two transactions the second is refused. -/
def lockedAnswer (key : PyValue) (w : W) (s : Store W Database) (c : SqlCall) :
    Reply sqlSignature c × Store W Database :=
  let out := answer key (connection (s.session w)) c
  if (s.writer.all fun x => x.1 = w) = true then
    (out.1, .enter w ⟨out.2.committed, out.2.transaction⟩)
  else
    match sqlKind c with
    | .idle => (out.1, s)
    | .rollback => (out.1, s)
    | .close => (out.1, s)
    | _ => (.error locked, s)

theorem lockedAnswer_shares (w : W) (s : Store W Database) (c : SqlCall) :
    Shares (serveSession key) w s c (lockedAnswer key w s c).1 (lockedAnswer key w s c).2 := by
  have hanswered : serveSession key (s.session w) c (answer key (connection (s.session w)) c).1
      ⟨(answer key (connection (s.session w)) c).2.committed,
        (answer key (connection (s.session w)) c).2.transaction⟩ := .answered c
  unfold lockedAnswer
  dsimp only
  split_ifs with hfree
  · refine .alone (fun w' hw' v hv => hw' ?_) hanswered
    have hwriter : s.writer = some (w', v) := hv
    simpa [hwriter] using hfree
  · have houtside : s.Outside w := by
      intro v hv
      have hwriter : s.writer = some (w, v) := hv
      simp [hwriter] at hfree
    have hsteady (hkind : sqlKind c = .idle ∨ sqlKind c = .rollback ∨ sqlKind c = .close) :
        Shares (serveSession key) w s c (answer key (connection (s.session w)) c).1 s := by
      refine .beside ?_
      rw [houtside.session] at hanswered ⊢
      exact ((serveSession_transactional key).steady c _ _ _ hkind hanswered).2 _
    split
    · rename_i hkind
      exact hsteady (.inl hkind)
    · rename_i hkind
      exact hsteady (.inr (.inl hkind))
    · rename_i hkind
      exact hsteady (.inr (.inr hkind))
    · rename_i _ _ hclose
      refine .beside (.failed ?_ locked)
      rintro rfl
      exact hclose rfl

/-- Two processes start with the same empty file, and the second meets the lock of the first. -/
def exampleRace : List (Label sqlSignature Bool Unit Unit) ×
    Pool sqlSignature Bool (Store Bool Database) Unit Unit :=
  runSchedule (fun _ => UserAuth.construct) (lockedAnswer .none)
    ([(true, some ()), (false, some ())] ++ List.replicate 3 (true, none) ++
      List.replicate 6 (false, none) ++ List.replicate 8 (true, none))
    ([], ⟨⟨⟨0, []⟩, none⟩, fun _ => none⟩)

theorem example_constructors_race :
    Opened .userAuth ⟨0, []⟩ exampleRace.2.shared.committed ∧
      commitLog sqlKind exampleRace.1 = [()] := by
  have hruns : OpeningRuns .none .userAuth ⟨0, []⟩ exampleRace.1 exampleRace.2 :=
    runSchedule_runs (fun w s c => lockedAnswer_shares w s c) _ .nil
  have hcommitted : commitLog sqlKind exampleRace.1 = [()] := rfl
  refine ⟨(constructors_race hruns).2.1 ?_, hcommitted⟩
  rw [hcommitted]
  simp

end Example

end PamMvp.ConcurrentOpening
