import PamMvp.AuditRepository

/-!
# The audit database under `append`

The database holds the committed rows and at most one open transaction with the
rows as its connection sees them. Any call may fail instead of being answered,
and a failure may take the transaction with it; only closing a connection always
succeeds. `append` keeps to one discipline: it reads the head, builds its row on
that head, inserts and commits, all under the lock that `BEGIN IMMEDIATE` takes.
-/
namespace PamMvp.AuditDatabase
open PythonText DomainModel SqliteValues SqliteParameters AuditEncoding AuditRepository
open InteractionPrograms SharedPrograms

variable {W : Type} [DecidableEq W]

/-- `transaction` is the connection that holds the write lock, with its view of the rows. -/
structure AuditDb (W : Type) where
  committed : List AuditRow
  transaction : Option (W × List AuditRow)
  deriving DecidableEq

namespace AuditDb

def visible (db : AuditDb W) (w : W) : List AuditRow :=
  match db.transaction with
  | some (holder, rows) => if holder = w then rows else db.committed
  | none => db.committed

/-- What closing or rolling back the connection of `w` does. -/
def release (db : AuditDb W) (w : W) : AuditDb W :=
  match db.transaction with
  | some (holder, _) => if holder = w then { db with transaction := none } else db
  | none => db

def commit (db : AuditDb W) (w : W) : AuditDb W :=
  match db.transaction with
  | some (holder, rows) => if holder = w then ⟨rows, none⟩ else db
  | none => db

def blocked (db : AuditDb W) (w : W) : Bool := db.transaction.any fun t => t.1 ≠ w

end AuditDb

def databaseLocked : PyExn := raised .sqliteError (py "database is locked")

def nestedTransaction : PyExn :=
  raised .sqliteError (py "cannot start a transaction within a transaction")

def constraintFailed : PyExn := raised .sqliteIntegrityError (py "UNIQUE constraint failed")

/-- `ORDER BY sequence_no`. -/
def ordered (table : List AuditRow) : List AuditRow := orderBy AuditColumns.sequenceNo table

/-- `SELECT sequence_no, event_mac ... ORDER BY sequence_no DESC LIMIT 1`. -/
def headOf (table : List AuditRow) : Except PyExn (Option (List PyValue)) :=
  match (ordered table).getLast? with
  | none => .ok none
  | some row => (fetchTuple [row.sequenceNo, row.eventMac]).map some

/-- A row with the id or with the sequence number of the new one. -/
def violates (table : List AuditRow) (row : AuditRow) : Bool :=
  table.any fun r => r.id = row.id ||
    (decide (r.sequenceNo ≤ row.sequenceNo) && decide (row.sequenceNo ≤ r.sequenceNo))

def fetchRows (table : List AuditRow) : List (Except PyExn (List PyValue)) :=
  (ordered table).map fun row => fetchTuple row.values

/-- What a call is answered when nothing fails. -/
def answer (key : Bytes) (w : W) (db : AuditDb W) :
    (c : AuditCall) → Reply auditSignature c × AuditDb W
  | .getKey => (.ok (.bytes key), db)
  | .connect => (.ok (), db)
  | .beginImmediate =>
    if db.blocked w then (.error databaseLocked, db)
    else if db.transaction.isSome then (.error nestedTransaction, db)
    else (.ok (), { db with transaction := some (w, db.committed) })
  | .selectHead => (headOf (db.visible w), db)
  | .insert c =>
    match bindColumns c with
    | .error e => (.error e, db)
    | .ok row =>
      if db.blocked w then (.error databaseLocked, db)
      else if violates (db.visible w) row then (.error constraintFailed, db)
      else (.ok (), { db with transaction := some (w, db.visible w ++ [row]) })
  | .commit => (.ok (), db.commit w)
  | .rollback => (.ok (), db.release w)
  | .selectRows => (.ok (fetchRows (db.visible w)), db)
  | .close => (.ok (), db.release w)

/-- The answers of the key provider and of SQLite. -/
inductive Serves (key : Bytes) (w : W) (db : AuditDb W) :
    (c : AuditCall) → Reply auditSignature c → AuditDb W → Prop where
  | answered (c : AuditCall) : Serves key w db c (answer key w db c).1 (answer key w db c).2
  | failed {c : AuditCall} (hc : c ≠ .close) (e : PyExn) : Serves key w db c (.error e) db
  | rolledBack {c : AuditCall} (hc : c ≠ .close) (e : PyExn) :
    Serves key w db c (.error e) (db.release w)
  | wrongKey (v : PyValue) (hv : ∀ k, checkKey v ≠ .ok k) : Serves key w db .getKey (.ok v) db

/-- How far an `append` has come. -/
inductive Phase where
  | fresh
  | keyed (key : Bytes)
  | begun (key : Bytes)
  | headRead (key : Bytes) (head : Option (List PyValue))
  | inserted
  | committed
  | failed
  | closed
  | unreachable

namespace Phase

def next : Phase → (c : AuditCall) → Reply auditSignature c → Phase
  | .unreachable, _, _ => .unreachable
  | .committed, .close, .error _ => .unreachable
  | .committed, _, _ => .committed
  | _, .commit, .ok _ => .committed
  | _, .close, .error _ => .unreachable
  | _, .close, .ok _ => .closed
  | _, .getKey, .error _ => .fresh
  | _, .getKey, .ok v =>
    match checkKey v with
    | .ok key => .keyed key
    | .error _ => .fresh
  | φ, .connect, _ => φ
  | .keyed key, .beginImmediate, .ok _ => .begun key
  | .begun key, .selectHead, .ok head => .headRead key head
  | .headRead _ _, .insert _, .ok _ => .inserted
  | _, _, _ => .failed

/-- The calls of `append`, by phase. -/
inductive Allowed (event : AppendArgument) : Phase → AuditCall → Prop where
  | getKey : Allowed event .fresh .getKey
  | connect (key : Bytes) : Allowed event (.keyed key) .connect
  | beginImmediate (key : Bytes) : Allowed event (.keyed key) .beginImmediate
  | selectHead (key : Bytes) : Allowed event (.begun key) .selectHead
  | insert {key : Bytes} {head : Option (List PyValue)} {fields : EventFields}
      {c : AuditColumns PyValue} (hfields : serialize event = .ok fields)
      (hc : nextColumns key fields head = .ok c) : Allowed event (.headRead key head) (.insert c)
  | commit : Allowed event .inserted .commit
  | rollbackRead (key : Bytes) (head : Option (List PyValue)) :
    Allowed event (.headRead key head) .rollback
  | rollbackFailed : Allowed event .failed .rollback
  | closeRead (key : Bytes) (head : Option (List PyValue)) :
    Allowed event (.headRead key head) .close
  | closeFailed : Allowed event .failed .close
  | closeCommitted : Allowed event .committed .close

/-- Where a returning or raising `append` ends. -/
def Ended : Phase → Outcome auditSignature Unit → Prop
  | .unreachable, _ => True
  | φ, .ret _ => φ = .committed
  | φ, .raise _ => φ = .fresh ∨ (∃ key, φ = .keyed key) ∨ φ = .closed

end Phase

def appendDiscipline (event : AppendArgument) : Discipline auditSignature Phase :=
  ⟨Phase.Allowed event, Phase.next⟩

/-- `row` is what `append` adds to a table. -/
def NextRow (key : Bytes) (event : AppendArgument) (table : List AuditRow) (row : AuditRow) :
    Prop :=
  ∃ fields head c, serialize event = .ok fields ∧ headOf table = .ok head ∧
    nextColumns key fields head = .ok c ∧ bindColumns c = .ok row ∧ violates table row = false

/-- `w` holds no lock. -/
def Outside (w : W) (db : AuditDb W) : Prop := ∀ rows, db.transaction ≠ some (w, rows)

/-- What the phase of an `append` says about the database. -/
def Local (key : Bytes) (w : W) (event : AppendArgument) : Phase → AuditDb W → Prop
  | .fresh, db | .committed, db | .closed, db => Outside w db
  | .keyed k, db => k = key ∧ Outside w db
  | .begun k, db => k = key ∧ db.transaction = some (w, db.committed)
  | .headRead k head, db =>
    k = key ∧ db.transaction = some (w, db.committed) ∧ headOf db.committed = .ok head
  | .inserted, db =>
    ∃ row, db.transaction = some (w, db.committed ++ [row]) ∧ NextRow key event db.committed row
  | .failed, _ => True
  | .unreachable, _ => False

/-- The effect of an allowed call on the committed rows. -/
def Commits (key : Bytes) (event : AppendArgument) (db db' : AuditDb W) :
    (c : AuditCall) → Reply auditSignature c → Prop
  | .commit, .ok _ =>
    ∃ row, NextRow key event db.committed row ∧ db'.committed = db.committed ++ [row]
  | _, _ => db'.committed = db.committed

section Release

variable (db : AuditDb W) (w : W)

@[simp] theorem release_committed : (db.release w).committed = db.committed := by
  unfold AuditDb.release
  split
  · split <;> rfl
  · rfl

theorem release_outside : Outside w (db.release w) := by
  intro rows h
  unfold AuditDb.release at h
  split at h
  · rename_i holder own hown
    split at h
    · cases h
    · rename_i hne
      rw [hown] at h
      cases h
      exact hne rfl
  · rename_i hnone
    rw [hnone] at h
    cases h

theorem release_other {w w' : W} (hne : w' ≠ w) (rows : List AuditRow) :
    (db.release w).transaction = some (w', rows) ↔ db.transaction = some (w', rows) := by
  unfold AuditDb.release
  split
  · rename_i holder own hown
    split
    · rename_i hholder
      subst hholder
      simp [hown, hne.symm]
    · rfl
  · rfl

variable {db w}

theorem visible_of_holder {rows : List AuditRow} (h : db.transaction = some (w, rows)) :
    db.visible w = rows := by
  simp [AuditDb.visible, h]

theorem commit_of_holder {rows : List AuditRow} (h : db.transaction = some (w, rows)) :
    db.commit w = ⟨rows, none⟩ := by
  simp [AuditDb.commit, h]

theorem not_blocked_of_holder {rows : List AuditRow} (h : db.transaction = some (w, rows)) :
    db.blocked w = false := by
  simp [AuditDb.blocked, h]

end Release

section Step

variable {key : Bytes} {event : AppendArgument} {w : W} {db db' : AuditDb W}

/-- A call of `w` takes or frees no lock of another connection, and commits nothing under one. -/
def Undisturbed (w : W) (db db' : AuditDb W) : Prop :=
  ∀ w' ≠ w, ∀ rows, (db'.transaction = some (w', rows) ↔ db.transaction = some (w', rows)) ∧
    (db.transaction = some (w', rows) → db'.committed = db.committed)

omit [DecidableEq W] in
theorem undisturbed_refl : Undisturbed w db db :=
  fun _ _ _ => ⟨Iff.rfl, fun _ => rfl⟩

theorem undisturbed_release : Undisturbed w db (db.release w) :=
  fun _ hne rows => ⟨release_other db hne rows, fun _ => release_committed db w⟩

omit [DecidableEq W] in
/-- While `w` holds the lock, nobody else does. -/
theorem undisturbed_of_holder {rows : List AuditRow} (h : db.transaction = some (w, rows))
    (h' : Outside w db' → db'.transaction = none) : Undisturbed w db db' := by
  intro w' hne rows'
  have hnot : db.transaction ≠ some (w', rows') := by
    intro heq
    rw [h] at heq
    cases heq
    exact hne rfl
  refine ⟨⟨fun heq => ?_, fun heq => absurd heq hnot⟩, fun heq => absurd heq hnot⟩
  have hout : Outside w db' := by
    intro own hown
    rw [hown] at heq
    cases heq
    exact hne rfl
  rw [h' hout] at heq
  cases heq

theorem checkKey_ok_iff (v : PyValue) (k : Bytes) :
    checkKey v = .ok k ↔ v = .bytes k ∧ k.length = macSize := by
  unfold checkKey
  cases v with
  | bytes data =>
    by_cases h : data.length = macSize
    · simp only [h, if_true, Except.ok.injEq, PyValue.bytes.injEq]
      constructor
      · intro hk
        exact ⟨hk, hk ▸ h⟩
      · exact And.left
    · simp only [h, if_false, PyValue.bytes.injEq]
      constructor
      · intro hk
        cases hk
      · intro hk
        exact absurd (hk.1 ▸ hk.2) h
  | none => simp
  | int i => simp
  | float r => simp
  | str s => simp

/-- What one call of `append` does to its own standing, to the rows, and to the others. -/
structure StepEffect (key : Bytes) (w : W) (event : AppendArgument) (db db' : AuditDb W)
    (φ : Phase) (c : AuditCall) (r : Reply auditSignature c) : Prop where
  standing : Local key w event (φ.next c r) db'
  commits : Commits key event db db' c r
  undisturbed : Undisturbed w db db'

/-- A failed call leaves the rows alone and, in these phases, any standing is fine. -/
theorem stepEffect_failed {φ : Phase} {c : AuditCall} {e : PyExn}
    (hφ : φ.next c (.error e) = .failed) (hdb : db' = db ∨ db' = db.release w) :
    StepEffect key w event db db' φ c (.error e) := by
  have hcommitted : db'.committed = db.committed := by
    rcases hdb with rfl | rfl
    · rfl
    · exact release_committed db w
  refine ⟨?_, ?_, ?_⟩
  · rw [hφ]
    trivial
  · cases c <;> exact hcommitted
  · rcases hdb with rfl | rfl
    · exact undisturbed_refl
    · exact undisturbed_release

theorem answer_beginImmediate (key : Bytes) (h : Outside w db) :
    answer key w db .beginImmediate = (.error databaseLocked, db) ∨
      db.transaction = none ∧ answer key w db .beginImmediate =
        (.ok (), { db with transaction := some (w, db.committed) }) := by
  cases ht : db.transaction with
  | none => exact .inr ⟨rfl, by simp [answer, AuditDb.blocked, ht]⟩
  | some own =>
    have hne : own.1 ≠ w := by
      intro hown
      exact h own.2 (by rw [ht, ← hown])
    exact .inl (by simp [answer, AuditDb.blocked, ht, hne])

theorem answer_insert (key : Bytes) (c : AuditColumns PyValue)
    (h : db.transaction = some (w, db.committed)) :
    (∃ e, answer key w db (.insert c) = (.error e, db)) ∨
      ∃ row, bindColumns c = .ok row ∧ violates db.committed row = false ∧
        answer key w db (.insert c) =
          (.ok (), { db with transaction := some (w, db.committed ++ [row]) }) := by
  simp only [answer, visible_of_holder h, not_blocked_of_holder h, Bool.false_eq_true, if_false]
  cases hbind : bindColumns c with
  | error e => exact .inl ⟨e, rfl⟩
  | ok row =>
    cases hviolates : violates db.committed row with
    | true => exact .inl ⟨constraintFailed, by simp [hviolates]⟩
    | false => exact .inr ⟨row, rfl, hviolates, by simp [hviolates]⟩

theorem stepEffect_getKey {r : Reply auditSignature .getKey} (hlocal : Outside w db)
    (hserve : Serves key w db .getKey r db') :
    StepEffect key w event db db' .fresh .getKey r := by
  cases hserve with
  | answered =>
    refine ⟨?_, rfl, undisturbed_refl⟩
    change Local key w event (match checkKey (.bytes key) with
      | .ok k => Phase.keyed k
      | .error _ => .fresh) db
    cases hkey : checkKey (.bytes key) with
    | error e => exact hlocal
    | ok k =>
      obtain ⟨hk, -⟩ := (checkKey_ok_iff _ _).mp hkey
      cases hk
      exact ⟨rfl, hlocal⟩
  | failed hc e => exact ⟨hlocal, rfl, undisturbed_refl⟩
  | rolledBack hc e => exact ⟨release_outside db w, release_committed db w, undisturbed_release⟩
  | wrongKey v hv =>
    refine ⟨?_, rfl, undisturbed_refl⟩
    change Local key w event (match checkKey v with
      | .ok k => Phase.keyed k
      | .error _ => .fresh) db
    cases hkey : checkKey v with
    | error e => exact hlocal
    | ok k => exact absurd hkey (hv k)

theorem stepEffect_beginImmediate {k : Bytes} {r : Reply auditSignature .beginImmediate}
    (hkey : k = key) (hlocal : Outside w db) (hserve : Serves key w db .beginImmediate r db') :
    StepEffect key w event db db' (.keyed k) .beginImmediate r := by
  cases hserve with
  | answered =>
    rcases answer_beginImmediate key hlocal with h | ⟨hnone, h⟩
    · rw [h]
      exact stepEffect_failed rfl (.inl rfl)
    · rw [h]
      refine ⟨⟨hkey, rfl⟩, rfl, fun w' hne rows => ?_⟩
      simp [hnone, hne.symm]
  | failed hc e => exact stepEffect_failed rfl (.inl rfl)
  | rolledBack hc e => exact stepEffect_failed rfl (.inr rfl)

theorem stepEffect_selectHead {k : Bytes} {r : Reply auditSignature .selectHead} (hkey : k = key)
    (hlocal : db.transaction = some (w, db.committed))
    (hserve : Serves key w db .selectHead r db') :
    StepEffect key w event db db' (.begun k) .selectHead r := by
  cases hserve with
  | answered =>
    simp only [answer, visible_of_holder hlocal]
    cases hhead : headOf db.committed with
    | error e => exact stepEffect_failed rfl (.inl rfl)
    | ok head => exact ⟨⟨hkey, hlocal, hhead⟩, rfl, undisturbed_refl⟩
  | failed hc e => exact stepEffect_failed rfl (.inl rfl)
  | rolledBack hc e => exact stepEffect_failed rfl (.inr rfl)

theorem stepEffect_insert {k : Bytes} {head : Option (List PyValue)} {fields : EventFields}
    {c : AuditColumns PyValue} {r : Reply auditSignature (.insert c)} (hkey : k = key)
    (hlocal : db.transaction = some (w, db.committed)) (hhead : headOf db.committed = .ok head)
    (hfields : serialize event = .ok fields) (hc : nextColumns k fields head = .ok c)
    (hserve : Serves key w db (.insert c) r db') :
    StepEffect key w event db db' (.headRead k head) (.insert c) r := by
  cases hserve with
  | answered =>
    rcases answer_insert key c hlocal with ⟨e, h⟩ | ⟨row, hbind, hviolates, h⟩
    · rw [h]
      exact stepEffect_failed rfl (.inl rfl)
    · rw [h]
      refine ⟨⟨row, rfl, fields, head, c, hfields, hhead, hkey ▸ hc, hbind, hviolates⟩, rfl, ?_⟩
      exact undisturbed_of_holder hlocal fun hout => absurd rfl (hout _)
  | failed _ e => exact stepEffect_failed rfl (.inl rfl)
  | rolledBack _ e => exact stepEffect_failed rfl (.inr rfl)

theorem stepEffect_commit {r : Reply auditSignature .commit}
    (hlocal : Local key w event .inserted db) (hserve : Serves key w db .commit r db') :
    StepEffect key w event db db' .inserted .commit r := by
  obtain ⟨row, htransaction, hrow⟩ := hlocal
  cases hserve with
  | answered =>
    simp only [answer, commit_of_holder htransaction]
    refine ⟨fun rows h => (nomatch h), ⟨row, hrow, rfl⟩, ?_⟩
    exact undisturbed_of_holder htransaction fun _ => rfl
  | failed hc e => exact stepEffect_failed rfl (.inl rfl)
  | rolledBack hc e => exact stepEffect_failed rfl (.inr rfl)

theorem stepEffect_rollback {φ : Phase} {r : Reply auditSignature .rollback}
    (hφ : ∀ r, φ.next .rollback r = .failed) (hserve : Serves key w db .rollback r db') :
    StepEffect key w event db db' φ .rollback r := by
  have hdb : db' = db ∨ db' = db.release w := by
    cases hserve with
    | answered => exact .inr rfl
    | failed => exact .inl rfl
    | rolledBack => exact .inr rfl
  have hcommitted : db'.committed = db.committed := by
    rcases hdb with rfl | rfl
    · rfl
    · exact release_committed db w
  refine ⟨?_, hcommitted, ?_⟩
  · rw [hφ]
    trivial
  · rcases hdb with rfl | rfl
    · exact undisturbed_refl
    · exact undisturbed_release

theorem stepEffect_close {φ : Phase} {r : Reply auditSignature .close}
    (hφ : φ.next .close (.ok ()) = .closed ∨ φ.next .close (.ok ()) = .committed)
    (hserve : Serves key w db .close r db') : StepEffect key w event db db' φ .close r := by
  cases hserve with
  | answered =>
    refine ⟨?_, release_committed db w, undisturbed_release⟩
    change Local key w event (φ.next .close (.ok ())) (db.release w)
    rcases hφ with h | h
    · rw [h]
      exact release_outside db w
    · rw [h]
      exact release_outside db w
  | failed hc => exact absurd rfl hc
  | rolledBack hc => exact absurd rfl hc

theorem stepEffect {φ : Phase} {c : AuditCall} {r : Reply auditSignature c}
    (hlocal : Local key w event φ db) (hallowed : Phase.Allowed event φ c)
    (hserve : Serves key w db c r db') : StepEffect key w event db db' φ c r := by
  cases hallowed with
  | getKey => exact stepEffect_getKey hlocal hserve
  | connect k =>
    cases hserve with
    | answered => exact ⟨hlocal, rfl, undisturbed_refl⟩
    | failed hc e => exact ⟨hlocal, rfl, undisturbed_refl⟩
    | rolledBack hc e =>
      exact ⟨⟨hlocal.1, release_outside db w⟩, release_committed db w, undisturbed_release⟩
  | beginImmediate k => exact stepEffect_beginImmediate hlocal.1 hlocal.2 hserve
  | selectHead k => exact stepEffect_selectHead hlocal.1 hlocal.2 hserve
  | insert hfields hc =>
    exact stepEffect_insert hlocal.1 hlocal.2.1 hlocal.2.2 hfields hc hserve
  | commit => exact stepEffect_commit hlocal hserve
  | rollbackRead k head => exact stepEffect_rollback (fun r => by cases r <;> rfl) hserve
  | rollbackFailed => exact stepEffect_rollback (fun r => by cases r <;> rfl) hserve
  | closeRead k head => exact stepEffect_close (.inl rfl) hserve
  | closeFailed => exact stepEffect_close (.inl rfl) hserve
  | closeCommitted => exact stepEffect_close (.inr rfl) hserve

end Step

section Follows

variable {event : AppendArgument}

theorem follows_rethrowing {α : Type} {p : Audit α} {translate : PyExn → PyExn}
    {Q R : Phase → Outcome auditSignature α → Prop} {φ : Phase}
    (hp : Follows (appendDiscipline event) Q p φ) (hret : ∀ φ a, Q φ (.ret a) → R φ (.ret a))
    (hraise : ∀ φ e, Q φ (.raise e) → R φ (.raise (translate e))) :
    Follows (appendDiscipline event) R (rethrowing p translate) φ :=
  hp.tryExcept hret hraise

/-- A loaded key is in the phase, and a failed load leaves the call fresh. -/
theorem loadKey_follows :
    Follows (appendDiscipline event) (fun φ o => match o with
      | .ret key => φ = .keyed key
      | .raise _ => φ = .fresh) loadKey .fresh := by
  have hget : Follows (appendDiscipline event) (fun φ o => match o with
      | .ret v => φ = Phase.next .fresh .getKey (.ok v)
      | .raise _ => φ = .fresh) (rethrowing (ask .getKey) keyNotLoaded) .fresh := by
    refine follows_rethrowing (Q := fun φ o => match o with
      | .ret v => φ = Phase.next .fresh .getKey (.ok v)
      | .raise _ => φ = .fresh) ?_ (fun _ _ h => h) (fun _ _ h => h)
    exact .perform .getKey (fun _ => rfl) fun _ => rfl
  refine hget.bind (fun φ v h => ?_) fun _ _ h => h
  refine .ofReply (fun key hkey => ?_) fun e he => ?_
  · rw [h]
    change (match checkKey v with
      | .ok k => Phase.keyed k
      | .error _ => .fresh) = _
    rw [hkey]
  · rw [h]
    change (match checkKey v with
      | .ok k => Phase.keyed k
      | .error _ => .fresh) = _
    rw [he]

/-- Where the transaction block leaves the connection before it is closed. -/
def Unclosed : Phase → Outcome auditSignature Unit → Prop
  | φ, .ret _ => φ = .committed
  | φ, .raise _ => φ = .failed ∨ ∃ key head, φ = .headRead key head

theorem appendRow_follows {key : Bytes} {fields : EventFields}
    (hfields : serialize event = .ok fields) :
    Follows (appendDiscipline event) Unclosed (appendRow key fields) (.keyed key) := by
  refine Follows.bind (Q := fun φ o => match o with
    | .ret _ => φ = .begun key
    | .raise _ => φ = .failed) ?_ (fun φ _ h => ?_) (fun _ _ h => .inl h)
  · exact .perform (.beginImmediate key) (fun _ => rfl) fun _ => rfl
  cases h
  refine Follows.bind (Q := fun φ o => match o with
    | .ret head => φ = .headRead key head
    | .raise _ => φ = .failed) ?_ (fun φ head h => ?_) (fun _ _ h => .inl h)
  · exact .perform (.selectHead key) (fun _ => rfl) fun _ => rfl
  cases h
  refine Follows.bind (Q := fun φ o => φ = .headRead key head ∧ ∀ c, o = .ret c →
    nextColumns key fields head = .ok c) ?_ (fun φ c h => ?_) (fun _ _ h => .inr ⟨key, head, h.1⟩)
  · refine .ofReply (fun c hc => ⟨rfl, fun c' h => ?_⟩) fun _ _ => ⟨rfl, fun _ h => (nomatch h)⟩
    cases h
    exact hc
  obtain ⟨rfl, hc⟩ := h
  refine Follows.bind (Q := fun φ o => match o with
    | .ret _ => φ = .inserted
    | .raise _ => φ = .failed) ?_ (fun φ _ h => ?_) (fun _ _ h => .inl h)
  · exact .perform (.insert hfields (hc c rfl)) (fun _ => rfl) fun _ => rfl
  cases h
  exact .perform .commit (fun _ => rfl) fun _ => .inl rfl

theorem rollingBack_follows {p : Audit Unit} {φ : Phase}
    (hp : Follows (appendDiscipline event) Unclosed p φ) :
    Follows (appendDiscipline event) Unclosed (rollingBack p) φ := by
  refine hp.tryExcept (fun _ _ h => h) fun φ e h => ?_
  cases he : e.isException with
  | false =>
    have hthrow : Follows (appendDiscipline event) Unclosed (throw e) φ := h
    simpa [he] using hthrow
  | true =>
    have hrollback : Follows (appendDiscipline event) (fun φ _ => φ = .failed)
        (ask .rollback) φ := by
      rcases h with rfl | ⟨key, head, rfl⟩
      · exact .perform .rollbackFailed (fun _ => rfl) fun _ => rfl
      · exact .perform (.rollbackRead key head) (fun _ => rfl) fun _ => rfl
    exact hrollback.bind (fun φ _ h => .inl h) fun φ _ h => .inl h

theorem connected_follows {p : Audit Unit} {key : Bytes}
    (hp : Follows (appendDiscipline event) Unclosed p (.keyed key)) :
    Follows (appendDiscipline event) Phase.Ended (connected p) (.keyed key) := by
  refine Follows.bind (Q := fun φ _ => φ = .keyed key) ?_ (fun φ _ h => ?_) fun φ e h => ?_
  · exact .perform (.connect key) (fun _ => rfl) fun _ => rfl
  · cases h
    refine hp.tryFinally fun φ o h => ?_
    cases o with
    | ret u =>
      cases h
      exact .perform .closeCommitted (fun _ => rfl) fun _ => trivial
    | raise e =>
      rcases h with rfl | ⟨key, head, rfl⟩
      · exact .perform .closeFailed (fun _ => .inr (.inr rfl)) fun _ => trivial
      · exact .perform (.closeRead key head) (fun _ => .inr (.inr rfl)) fun _ => trivial
  · cases h
    exact .inr (.inl ⟨key, rfl⟩)

/-- `append` keeps to its discipline whatever its calls are answered. -/
theorem append_follows (event : AppendArgument) :
    Follows (appendDiscipline event) Phase.Ended (append event) .fresh := by
  refine Follows.bind (Q := fun φ o => φ = .fresh ∧ ∀ fields, o = .ret fields →
    serialize event = .ok fields) ?_ (fun φ fields h => ?_) fun φ e h => ?_
  · refine .ofReply (fun fields h => ⟨rfl, fun fields' h' => ?_⟩)
      fun _ _ => ⟨rfl, fun _ h => (nomatch h)⟩
    cases h'
    exact h
  · obtain ⟨rfl, hfields⟩ := h
    refine loadKey_follows.bind (fun φ key h => ?_) fun φ e h => ?_
    · cases h
      have hrow : Follows (appendDiscipline event) Phase.Ended
          (connected (rollingBack (appendRow key fields))) (.keyed key) :=
        connected_follows (rollingBack_follows (appendRow_follows (hfields fields rfl)))
      refine follows_rethrowing hrow (fun _ _ h => h) fun φ e h => ?_
      cases φ <;> exact h
    · cases h
      exact .inl rfl
  · rw [h.1]
    exact .inl rfl

end Follows

section Run

variable {key : Bytes} {event : AppendArgument} {table : List AuditRow}

/-- Only the commit takes an `append` to the committed phase. -/
theorem next_committed {φ : Phase} {c : AuditCall} {r : Reply auditSignature c}
    (hallowed : Phase.Allowed event φ c) (h : φ.next c r = .committed) :
    φ = .committed ∨ c = .commit ∧ φ = .inserted := by
  cases hallowed with
  | getKey =>
    cases r with
    | error e => cases h
    | ok v =>
      change (match checkKey v with
        | .ok k => Phase.keyed k
        | .error _ => .fresh) = _ at h
      split at h <;> cases h
  | commit => exact .inr ⟨rfl, rfl⟩
  | closeCommitted => exact .inl rfl
  | connect k => cases h
  | beginImmediate k => cases r <;> cases h
  | selectHead k => cases r <;> cases h
  | insert hfields hc => cases r <;> cases h
  | rollbackRead k head => cases r <;> cases h
  | rollbackFailed => cases r <;> cases h
  | closeRead k head => cases r <;> cases h
  | closeFailed => cases r <;> cases h

theorem Commits.unchanged {W : Type} {db db' : AuditDb W} {c : AuditCall}
    {r : Reply auditSignature c} (h : Commits key event db db' c r)
    (hc : ∀ u, (⟨c, r⟩ : Event auditSignature) ≠ ⟨.commit, .ok u⟩) :
    db'.committed = db.committed := by
  cases c with
  | commit =>
    cases r with
    | ok u => exact absurd rfl (hc u)
    | error e => exact h
  | _ => exact h

/-- What an `append` that has the database for itself has done so far. -/
structure Progress (key : Bytes) (event : AppendArgument) (table : List AuditRow) (φ : Phase)
    (db : AuditDb Unit) : Prop where
  standing : Local key () event φ db
  added : φ = .committed → ∃ row, NextRow key event table row ∧ db.committed = table ++ [row]
  unchanged : φ ≠ .committed → db.committed = table

theorem Progress.step {φ : Phase} {c : AuditCall} {r : Reply auditSignature c}
    {db db' : AuditDb Unit} (h : Progress key event table φ db)
    (hallowed : Phase.Allowed event φ c) (hserve : Serves key () db c r db') :
    Progress key event table (φ.next c r) db' := by
  have heffect := stepEffect h.standing hallowed hserve
  refine ⟨heffect.standing, fun hcommitted => ?_, fun hcommitted => ?_⟩
  · rcases next_committed hallowed hcommitted with rfl | ⟨rfl, rfl⟩
    · cases hallowed with
      | closeCommitted =>
        have hsame : db'.committed = db.committed := heffect.commits
        rw [hsame]
        exact h.added rfl
    · cases r with
      | error e => cases hcommitted
      | ok u =>
        obtain ⟨row, hrow, hnew⟩ := heffect.commits
        rw [h.unchanged (nofun)] at hrow hnew
        exact ⟨row, hrow, hnew⟩
  · have hφ : φ ≠ .committed := by
      intro hφ
      subst hφ
      cases hallowed with
      | closeCommitted =>
        cases r with
        | ok u => exact hcommitted rfl
        | error e => exact heffect.standing
    rw [← h.unchanged hφ]
    refine heffect.commits.unchanged fun u hu => ?_
    cases hu
    cases hallowed
    exact hcommitted rfl

/-- A returning `append` adds one row to the table, and a raising one adds none. -/
theorem append_run {o : Outcome auditSignature Unit} {db : AuditDb Unit}
    (h : RunsOn (Serves key ()) (append event) ⟨table, none⟩ o db) :
    (o = .ret () ∧ ∃ row, NextRow key event table row ∧ db.committed = table ++ [row]) ∨
      (∃ e, o = .raise e) ∧ db.committed = table := by
  have hstart : Progress key event table .fresh ⟨table, none⟩ :=
    ⟨fun _ h => (nomatch h), nofun, fun _ => rfl⟩
  obtain ⟨φ, hprogress, hended⟩ := (append_follows event).runsOn
    (fun _ _ _ _ _ hJ hallowed hserve => hJ.step hallowed hserve) hstart h
  cases o with
  | ret u =>
    refine .inl ⟨rfl, hprogress.added ?_⟩
    cases φ with
    | unreachable => exact hprogress.standing.elim
    | _ => exact hended
  | raise e =>
    refine .inr ⟨⟨e, rfl⟩, hprogress.unchanged fun hφ => ?_⟩
    subst hφ
    rcases hended with h | ⟨_, h⟩ | h <;> cases h

end Run

end PamMvp.AuditDatabase
