import PamMvp.AuditEncoding
import PamMvp.SharedPrograms
import PamMvp.SqliteParameters

/-!
# The audit repository

`append` and `verify_integrity` as programs over the calls they make to the key
provider and to SQLite. The checks of the stored rows are functions of what the
cursor hands out, which may be anything.
-/
namespace PamMvp.AuditRepository
open PythonText DomainModel SqliteValues SqliteParameters AuditEncoding InteractionPrograms

/-- One value for each column of `audit_events`. -/
structure AuditColumns (α : Type) where
  sequenceNo : α
  id : α
  timestamp : α
  eventType : α
  actorUserId : α
  targetId : α
  sessionId : α
  result : α
  reasonCode : α
  previousMac : α
  eventMac : α
  deriving DecidableEq

abbrev AuditRow : Type := AuditColumns SqlValue

namespace AuditColumns

variable {α β : Type}

def values (c : AuditColumns α) : List α :=
  [c.sequenceNo, c.id, c.timestamp, c.eventType, c.actorUserId, c.targetId, c.sessionId, c.result,
    c.reasonCode, c.previousMac, c.eventMac]

def map (f : α → β) (c : AuditColumns α) : AuditColumns β :=
  ⟨f c.sequenceNo, f c.id, f c.timestamp, f c.eventType, f c.actorUserId, f c.targetId,
    f c.sessionId, f c.result, f c.reasonCode, f c.previousMac, f c.eventMac⟩

@[simp] theorem values_map (f : α → β) (c : AuditColumns α) :
    (c.map f).values = c.values.map f := rfl

theorem values_injective : Function.Injective (values (α := α)) := by
  intro c d h
  cases c
  cases d
  simpa [values] using h

end AuditColumns

/-- The parameters of the `INSERT`, bound in order. -/
def bindColumns (c : AuditColumns PyValue) : Except PyExn AuditRow := do
  let sequenceNo ← bindParameter c.sequenceNo
  let id ← bindParameter c.id
  let timestamp ← bindParameter c.timestamp
  let eventType ← bindParameter c.eventType
  let actorUserId ← bindParameter c.actorUserId
  let targetId ← bindParameter c.targetId
  let sessionId ← bindParameter c.sessionId
  let result ← bindParameter c.result
  let reasonCode ← bindParameter c.reasonCode
  let previousMac ← bindParameter c.previousMac
  let eventMac ← bindParameter c.eventMac
  return ⟨sequenceNo, id, timestamp, eventType, actorUserId, targetId, sessionId, result,
    reasonCode, previousMac, eventMac⟩

def optionalValue : Option PyStr → PyValue
  | none => .none
  | some s => .str s

/-- The column values of a chained row. -/
def recordColumns (r : ChainRecord) : AuditColumns PyValue :=
  ⟨.int r.sequenceNo, .str r.fields.eventId, .str r.fields.timestamp, .str r.fields.eventType,
    .str r.fields.actorUserId, .str r.fields.targetId, optionalValue r.fields.sessionId,
    .str r.fields.result, optionalValue r.fields.reasonCode, .bytes r.previousMac,
    .bytes r.eventMac⟩

def chainVerificationFailed : PyExn :=
  raised .auditIntegrityError (py "audit chain integrity verification failed")

def intValue? : PyValue → Option ℤ
  | .int i => some i
  | _ => none

def strValue? : PyValue → Option PyStr
  | .str s => some s
  | _ => none

def optionalStrValue? : PyValue → Option (Option PyStr)
  | .none => some none
  | .str s => some (some s)
  | _ => none

def bytesValue? : PyValue → Option Bytes
  | .bytes data => some data
  | _ => none

/-- The row as a chained row when `_validate_stored_row` has no objection. -/
def storedRecord? : List PyValue → Option ChainRecord
  | [sequenceNo, eventId, timestamp, eventType, actorUserId, targetId, sessionId, result,
      reasonCode, previousMac, eventMac] => do
    let sequenceNo ← intValue? sequenceNo
    let eventId ← strValue? eventId
    let timestamp ← strValue? timestamp
    let eventType ← strValue? eventType
    let actorUserId ← strValue? actorUserId
    let targetId ← strValue? targetId
    let sessionId ← optionalStrValue? sessionId
    let result ← strValue? result
    let reasonCode ← optionalStrValue? reasonCode
    let previousMac ← bytesValue? previousMac
    let eventMac ← bytesValue? eventMac
    if h : previousMac.length = macSize ∧ eventMac.length = macSize then
      some ⟨sequenceNo, ⟨eventId, timestamp, eventType, actorUserId, targetId, sessionId, result,
        reasonCode⟩, previousMac, eventMac, h.1, h.2⟩
    else none
  | _ => none

def validateStoredRow (row : List PyValue) : Except PyExn ChainRecord :=
  match storedRecord? row with
  | some r => .ok r
  | none => .error chainVerificationFailed

/-- `_verify_rows` from some row on. The cursor may raise instead of handing out a row. -/
def verifyRows (key : Bytes) : ℤ → Bytes → List (Except PyExn (List PyValue)) → Except PyExn Unit
  | _, _, [] => .ok ()
  | expectedSequence, expectedPreviousMac, next :: rows => do
    let row ← next
    let r ← validateStoredRow row
    if r.sequenceNo ≠ expectedSequence || !macsMatch r.previousMac expectedPreviousMac then
      .error chainVerificationFailed
    else
      let canonical ← canonicalEventBytes r.sequenceNo r.fields
      if !macsMatch r.eventMac (calculateEventMac key canonical r.previousMac) then
        .error chainVerificationFailed
      else verifyRows key (expectedSequence + 1) r.eventMac rows

def invalidChainHead : PyExn := raised .auditStorageError (py "audit chain head is invalid")

def nextChainLink : Option (List PyValue) → Except PyExn (ℤ × Bytes)
  | none => .ok (1, genesisMac)
  | some [.int sequenceNo, .bytes eventMac] =>
    if sequenceNo < 1 || eventMac.length ≠ macSize then .error invalidChainHead
    else .ok (sequenceNo + 1, eventMac)
  | some _ => .error invalidChainHead

/-- The row that `append` builds on a chain head. -/
def nextColumns (key : Bytes) (fields : EventFields) (head : Option (List PyValue)) :
    Except PyExn (AuditColumns PyValue) := do
  let (sequenceNo, previousMac) ← nextChainLink head
  let canonical ← canonicalEventBytes sequenceNo fields
  let eventMac := calculateEventMac key canonical previousMac
  return ⟨.int sequenceNo, .str fields.eventId, .str fields.timestamp, .str fields.eventType,
    .str fields.actorUserId, .str fields.targetId, optionalValue fields.sessionId,
    .str fields.result, optionalValue fields.reasonCode, .bytes previousMac, .bytes eventMac⟩

section Programs

inductive AuditCall where
  | getKey
  | connect
  | beginImmediate
  | selectHead
  | insert (row : AuditColumns PyValue)
  | commit
  | rollback
  | selectRows
  | close

/-- A key provider may return any object; a cursor hands out rows or raises. -/
abbrev AuditCall.Answer : AuditCall → Type
  | .getKey => PyValue
  | .selectHead => Option (List PyValue)
  | .selectRows => List (Except PyExn (List PyValue))
  | _ => Unit

abbrev auditSignature : Signature := ⟨AuditCall, AuditCall.Answer, PyExn⟩

abbrev Audit (α : Type) : Type := Prog auditSignature Unit α

def ask (c : AuditCall) : Audit c.Answer := Prog.perform (S := auditSignature) c

def throw {α : Type} (e : PyExn) : Audit α := Prog.raise (S := auditSignature) e

def lift {α : Type} (r : Except PyExn α) : Audit α := Prog.ofReply (S := auditSignature) r

/-- `try: p except Exception: ...` with the exception that replaces or repeats the caught one. -/
def rethrowing {α : Type} (p : Audit α) (translate : PyExn → PyExn) : Audit α :=
  p.tryExcept fun e => throw (translate e)

def keyNotLoaded (e : PyExn) : PyExn :=
  if e.isException then raised .auditStorageError (py "audit integrity key could not be loaded")
  else e

def checkKey : PyValue → Except PyExn Bytes
  | .bytes key =>
    if key.length = macSize then .ok key
    else .error (raised .auditStorageError (py "audit integrity key must be exactly 32 bytes"))
  | _ => .error (raised .auditStorageError (py "audit integrity key must be exactly 32 bytes"))

def loadKey : Audit Bytes := do
  let key ← rethrowing (ask .getKey) keyNotLoaded
  lift (checkKey key)

def isSqliteError (e : PyExn) : Bool := e.cls = .sqliteError || e.cls = .sqliteIntegrityError

def isAuditStorageError (e : PyExn) : Bool :=
  e.cls = .auditStorageError || e.cls = .duplicateAuditEventError ||
    e.cls = .auditIntegrityError || e.cls = .unsupportedAuditSchemaError

/-- The `except` clauses of `append`, in their order. -/
def appendError (e : PyExn) : PyExn :=
  if e.cls = .sqliteIntegrityError then
    raised .duplicateAuditEventError (py "audit event id already exists")
  else if isAuditStorageError e then e
  else if isSqliteError e then
    raised .auditStorageError (py "audit event could not be persisted")
  else if e.isException then raised .auditStorageError (py "audit event could not be chained")
  else e

/-- The `except` clauses of `verify_integrity`, in their order. -/
def verifyError (e : PyExn) : PyExn :=
  if e.cls = .auditIntegrityError then e
  else if isSqliteError e then
    raised .auditStorageError (py "audit events could not be verified")
  else if e.isException then chainVerificationFailed
  else e

/-- `except Exception: connection.rollback(); raise`. -/
def rollingBack (p : Audit Unit) : Audit Unit :=
  p.tryExcept fun e => do
    if e.isException then ask .rollback
    throw e

/-- The transaction of `append`. -/
def appendRow (key : Bytes) (fields : EventFields) : Audit Unit := do
  ask .beginImmediate
  let head ← ask .selectHead
  let row ← lift (nextColumns key fields head)
  ask (.insert row)
  ask .commit

/-- `with closing(sqlite3.connect(...)) as connection`. -/
def connected (p : Audit Unit) : Audit Unit := do
  ask .connect
  Prog.tryFinally p (ask .close)

def append (event : AppendArgument) : Audit Unit := do
  let fields ← lift (serialize event)
  let key ← loadKey
  rethrowing (connected (rollingBack (appendRow key fields))) appendError

def verifyIntegrity : Audit Unit := do
  let key ← loadKey
  rethrowing (connected do
    let rows ← ask .selectRows
    lift (verifyRows key 1 genesisMac rows)) verifyError

end Programs

section Columns

theorem bindColumns_ok_iff (c : AuditColumns PyValue) (row : AuditRow) :
    bindColumns c = .ok row ↔
      (∀ v ∈ c.values, v.fits = true ∧ v.encodes = true) ∧ row = c.map PyValue.stored := by
  simp only [bindColumns, except_bind_ok_iff, bindParameter_ok_iff, pure, Except.pure,
    Except.ok.injEq, AuditColumns.values, List.forall_mem_cons, List.not_mem_nil, false_imp_iff,
    implies_true, and_true]
  constructor
  · intro h
    obtain ⟨_, ⟨h1, h1', rfl⟩, _, ⟨h2, h2', rfl⟩, _, ⟨h3, h3', rfl⟩, _, ⟨h4, h4', rfl⟩,
      _, ⟨h5, h5', rfl⟩, _, ⟨h6, h6', rfl⟩, _, ⟨h7, h7', rfl⟩, _, ⟨h8, h8', rfl⟩,
      _, ⟨h9, h9', rfl⟩, _, ⟨h10, h10', rfl⟩, _, ⟨h11, h11', rfl⟩, rfl⟩ := h
    exact ⟨⟨⟨h1, h1'⟩, ⟨h2, h2'⟩, ⟨h3, h3'⟩, ⟨h4, h4'⟩, ⟨h5, h5'⟩, ⟨h6, h6'⟩, ⟨h7, h7'⟩,
      ⟨h8, h8'⟩, ⟨h9, h9'⟩, ⟨h10, h10'⟩, ⟨h11, h11'⟩⟩, rfl⟩
  · intro h
    obtain ⟨⟨h1, h2, h3, h4, h5, h6, h7, h8, h9, h10, h11⟩, rfl⟩ := h
    exact ⟨_, ⟨h1.1, h1.2, rfl⟩, _, ⟨h2.1, h2.2, rfl⟩, _, ⟨h3.1, h3.2, rfl⟩, _,
      ⟨h4.1, h4.2, rfl⟩, _, ⟨h5.1, h5.2, rfl⟩, _, ⟨h6.1, h6.2, rfl⟩, _, ⟨h7.1, h7.2, rfl⟩, _,
      ⟨h8.1, h8.2, rfl⟩, _, ⟨h9.1, h9.2, rfl⟩, _, ⟨h10.1, h10.2, rfl⟩, _, ⟨h11.1, h11.2, rfl⟩,
      rfl⟩

theorem intValue?_eq_some_iff (v : PyValue) (i : ℤ) : intValue? v = some i ↔ v = .int i := by
  cases v <;> simp [intValue?]

theorem strValue?_eq_some_iff (v : PyValue) (s : PyStr) : strValue? v = some s ↔ v = .str s := by
  cases v <;> simp [strValue?]

theorem optionalStrValue?_eq_some_iff (v : PyValue) (s : Option PyStr) :
    optionalStrValue? v = some s ↔ v = optionalValue s := by
  cases v <;> cases s <;> simp [optionalStrValue?, optionalValue]

theorem bytesValue?_eq_some_iff (v : PyValue) (data : Bytes) :
    bytesValue? v = some data ↔ v = .bytes data := by
  cases v <;> simp [bytesValue?]

theorem storedRecord?_eq_some_iff (row : List PyValue) (r : ChainRecord) :
    storedRecord? row = some r ↔ row = (recordColumns r).values := by
  constructor
  · intro h
    unfold storedRecord? at h
    split at h
    · obtain ⟨sequenceNo, hsequenceNo, h⟩ := Option.bind_eq_some_iff.mp h
      obtain ⟨eventId, heventId, h⟩ := Option.bind_eq_some_iff.mp h
      obtain ⟨timestamp, htimestamp, h⟩ := Option.bind_eq_some_iff.mp h
      obtain ⟨eventType, heventType, h⟩ := Option.bind_eq_some_iff.mp h
      obtain ⟨actorUserId, hactorUserId, h⟩ := Option.bind_eq_some_iff.mp h
      obtain ⟨targetId, htargetId, h⟩ := Option.bind_eq_some_iff.mp h
      obtain ⟨sessionId, hsessionId, h⟩ := Option.bind_eq_some_iff.mp h
      obtain ⟨result, hresult, h⟩ := Option.bind_eq_some_iff.mp h
      obtain ⟨reasonCode, hreasonCode, h⟩ := Option.bind_eq_some_iff.mp h
      obtain ⟨previousMac, hpreviousMac, h⟩ := Option.bind_eq_some_iff.mp h
      obtain ⟨eventMac, heventMac, h⟩ := Option.bind_eq_some_iff.mp h
      rw [intValue?_eq_some_iff] at hsequenceNo
      rw [strValue?_eq_some_iff] at heventId htimestamp heventType hactorUserId htargetId hresult
      rw [optionalStrValue?_eq_some_iff] at hsessionId hreasonCode
      rw [bytesValue?_eq_some_iff] at hpreviousMac heventMac
      split at h
      · cases h
        rw [hsequenceNo, heventId, htimestamp, heventType, hactorUserId, htargetId, hsessionId,
          hresult, hreasonCode, hpreviousMac, heventMac]
        rfl
      · cases h
    · cases h
  · intro h
    subst h
    have hint (n : ℤ) : intValue? (.int n) = some n := rfl
    have hstr (s : PyStr) : strValue? (.str s) = some s := rfl
    have hoptional (s : Option PyStr) : optionalStrValue? (optionalValue s) = some s :=
      (optionalStrValue?_eq_some_iff _ _).mpr rfl
    have hbytes (data : Bytes) : bytesValue? (.bytes data) = some data := rfl
    simp only [storedRecord?, recordColumns, AuditColumns.values, hint, hstr, hoptional, hbytes,
      Option.bind_eq_bind, Option.bind_some]
    rw [dif_pos ⟨r.previousMac_length, r.eventMac_length⟩]

theorem validateStoredRow_ok_iff (row : List PyValue) (r : ChainRecord) :
    validateStoredRow row = .ok r ↔ row = (recordColumns r).values := by
  rw [← storedRecord?_eq_some_iff, validateStoredRow]
  cases storedRecord? row <;> simp

end Columns

end PamMvp.AuditRepository
