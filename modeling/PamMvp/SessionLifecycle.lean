import PamMvp.DomainModel

/-!
# The session state machine

A session is built open and ends closed or failed. The constructor and the three
mutators check before they assign, so a call that raises leaves the record as
it was.
-/
namespace PamMvp.SessionLifecycle
open PythonText DateTimes DomainModel

inductive SessionStatus where
  | opening | active | closed | failed
  deriving DecidableEq

structure Session where
  id : PyStr
  requestId : PyStr
  userId : PyStr
  targetId : PyStr
  accountId : PyStr
  status : SessionStatus
  startedAt : DateTime
  endedAt : Option DateTime
  closeReason : Option PyStr
  deriving DecidableEq

def requireAware (value : DateTime) (fieldName : PyStr) : Except PyExn Unit :=
  if value.aware then .ok ()
  else .error (raised .valueError (fieldName ++ py " must be timezone-aware"))

def requireReason : Option PyStr → Except PyExn Unit
  | some reason => requireNonblank reason (py "close_reason cannot be empty")
  | none => .error (raised .valueError (py "close_reason cannot be empty"))

/-- `a < b` of two datetimes, with the `TypeError` of a mixed pair. -/
def before (a b : DateTime) : Except PyExn Bool :=
  match a.lt? b with
  | some r => .ok r
  | none => .error (raised .typeError (py "can't compare offset-naive and offset-aware datetimes"))

namespace Session

def requireNotBeforeStart (s : Session) (endedAt : DateTime) : Except PyExn Unit := do
  if ← before endedAt s.startedAt then
    .error (raised .valueError (py "ended_at cannot be earlier than started_at"))
  else .ok ()

def validateTerminalValues (s : Session) (endedAt : DateTime) (reason : PyStr) :
    Except PyExn Unit := do
  requireAware endedAt (py "ended_at")
  s.requireNotBeforeStart endedAt
  requireReason (some reason)

def requireIds (s : Session) : Except PyExn Unit := do
  requireNonblank s.id (py "session id cannot be empty")
  requireNonblank s.requestId (py "request id cannot be empty")
  requireNonblank s.userId (py "user id cannot be empty")
  requireNonblank s.targetId (py "target id cannot be empty")
  requireNonblank s.accountId (py "account id cannot be empty")

def requireEnd (s : Session) : Except PyExn Unit :=
  match s.endedAt with
  | none => .ok ()
  | some endedAt => do
    requireAware endedAt (py "ended_at")
    s.requireNotBeforeStart endedAt

def requireStatusFields (s : Session) : Except PyExn Unit :=
  match s.status with
  | .opening | .active =>
    if s.endedAt.isSome then
      .error (raised .valueError (py "an opening or active session cannot have ended_at"))
    else if s.closeReason.isSome then
      .error (raised .valueError (py "an opening or active session cannot have close_reason"))
    else .ok ()
  | .closed | .failed =>
    if s.endedAt.isNone then
      .error (raised .valueError (py "a terminal session must have ended_at"))
    else requireReason s.closeReason

def postInit (s : Session) : Except PyExn Session := do
  s.requireIds
  requireAware s.startedAt (py "started_at")
  s.requireEnd
  s.requireStatusFields
  return s

def markActive (s : Session) : Except PyExn Session :=
  if s.status = .opening then .ok { s with status := .active }
  else .error (raised .valueError (py "only an opening session can become active"))

def markFailed (s : Session) (endedAt : DateTime) (reason : PyStr) : Except PyExn Session := do
  if s.status = .opening ∨ s.status = .active then
    s.validateTerminalValues endedAt reason
    return { s with status := .failed, endedAt := some endedAt, closeReason := some reason }
  else .error (raised .valueError (py "only an opening or active session can fail"))

def markClosed (s : Session) (endedAt : DateTime) (reason : PyStr) : Except PyExn Session := do
  if s.status = .active then
    s.validateTerminalValues endedAt reason
    return { s with status := .closed, endedAt := some endedAt, closeReason := some reason }
  else .error (raised .valueError (py "only an active session can close"))

/-- The values a terminal transition accepts. -/
def Acceptable (s : Session) (endedAt : DateTime) (reason : PyStr) : Prop :=
  endedAt.aware = true ∧ endedAt.lt? s.startedAt = some false ∧ blank reason = false

end Session

theorem requireAware_ok_iff (value : DateTime) (fieldName : PyStr) (u : Unit) :
    requireAware value fieldName = .ok u ↔ value.aware = true := by
  unfold requireAware
  cases value.aware <;> simp

namespace Session

theorem requireNotBeforeStart_ok_iff (s : Session) (endedAt : DateTime) (u : Unit) :
    s.requireNotBeforeStart endedAt = .ok u ↔ endedAt.lt? s.startedAt = some false := by
  unfold requireNotBeforeStart before
  cases endedAt.lt? s.startedAt with
  | none => simp [bind, Except.bind]
  | some earlier => cases earlier <;> simp [bind, Except.bind]

theorem validateTerminalValues_ok_iff (s : Session) (endedAt : DateTime) (reason : PyStr)
    (u : Unit) : s.validateTerminalValues endedAt reason = .ok u ↔ s.Acceptable endedAt reason := by
  simp only [validateTerminalValues, except_bind_ok_iff, requireAware_ok_iff,
    requireNotBeforeStart_ok_iff, requireReason, requireNonblank_ok_iff, exists_const, Acceptable]

theorem markActive_ok_iff (s t : Session) :
    s.markActive = .ok t ↔ s.status = .opening ∧ t = { s with status := .active } := by
  unfold markActive
  split_ifs with h
  · simp [h, eq_comm]
  · simp [h]

theorem markFailed_ok_iff (s t : Session) (endedAt : DateTime) (reason : PyStr) :
    s.markFailed endedAt reason = .ok t ↔
      (s.status = .opening ∨ s.status = .active) ∧ s.Acceptable endedAt reason ∧
        t = { s with status := .failed, endedAt := some endedAt, closeReason := some reason } := by
  unfold markFailed
  split_ifs with h
  · simp only [except_bind_ok_iff, validateTerminalValues_ok_iff, exists_const, h,
      pure, Except.pure, Except.ok.injEq, true_and, eq_comm (a := t)]
  · simp [h]

theorem markClosed_ok_iff (s t : Session) (endedAt : DateTime) (reason : PyStr) :
    s.markClosed endedAt reason = .ok t ↔
      s.status = .active ∧ s.Acceptable endedAt reason ∧
        t = { s with status := .closed, endedAt := some endedAt, closeReason := some reason } := by
  unfold markClosed
  split_ifs with h
  · simp only [except_bind_ok_iff, validateTerminalValues_ok_iff, exists_const, h,
      pure, Except.pure, Except.ok.injEq, true_and, eq_comm (a := t)]
  · simp [h]

/-- A session that the constructor accepts as opening has no end yet. -/
theorem postInit_opening {s t : Session} (h : s.postInit = .ok t) (ho : s.status = .opening) :
    t = s ∧ s.startedAt.aware = true ∧ s.endedAt = none ∧ s.closeReason = none := by
  simp only [postInit, except_bind_ok_iff, requireAware_ok_iff, pure, Except.pure,
    Except.ok.injEq] at h
  obtain ⟨_, -, _, haware, _, -, _, hstatus, rfl⟩ := h
  unfold requireStatusFields at hstatus
  rw [ho] at hstatus
  cases he : s.endedAt with
  | some d => simp [he] at hstatus
  | none =>
    cases hc : s.closeReason with
    | some r => simp [he, hc] at hstatus
    | none => exact ⟨rfl, haware, rfl, rfl⟩

end Session

end PamMvp.SessionLifecycle
