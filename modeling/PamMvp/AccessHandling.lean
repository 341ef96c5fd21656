import PamMvp.PamCalls
import PamMvp.PolicyEvaluation

/-!
# The access service

`handle` passes a request through the identity, policy, target, account and
vault checks, and only then opens a session. From there on the session record
and the audit log move together: the record is changed first, the matching event
is appended next, and a broker that was opened is closed on every way out.
-/
namespace PamMvp.AccessHandling
open InteractionPrograms PythonText DateTimes DomainModel SessionLifecycle PamCalls

structure AccessService where
  sessionBroker : SessionBroker
  /-- `max_session_duration` in microseconds. -/
  maxSessionDuration : ℤ
  maxSessionDuration_pos : 0 < maxSessionDuration

/-- The session object of the request; it is read only after it was built. -/
def currentSession : Pam Session := do
  match (← Prog.memory).session with
  | some session => return session
  | none => throw (raised .otherException (py "session is not bound"))

/-- Call one of the mutators of the session. -/
def transition (mutator : Session → Except PyExn Session) : Pam Unit := do
  let session ← lift (mutator (← currentSession))
  Prog.modify fun m => { m with session := some session }

/-- The later of two datetimes as `max(observed, started)` picks it. -/
def clamp (observed started : DateTime) : Except PyExn DateTime := do
  if ← before observed started then return started else return observed

def terminalTimestamp : Pam DateTime := do
  let observed ← ask .now
  lift (clamp observed (← currentSession).startedAt)

def timestampOr : Option DateTime → Pam DateTime
  | none => ask .now
  | some timestamp => return timestamp

def appendEvent (request : AccessRequest) (eventType : AuditEventType) (sessionId : Option PyStr)
    (result : PyStr) (reasonCode : Option PyStr) (actorUserId : Option PyStr)
    (timestamp : Option DateTime) : Pam Unit := do
  let id ← ask .newId
  let timestamp ← timestampOr timestamp
  let event ← lift (AuditEvent.postInit
    { id := id
      timestamp := timestamp
      eventType := eventType
      actorUserId := actorUserId.getD request.userId
      targetId := request.targetId
      sessionId := sessionId
      result := result
      reasonCode := reasonCode })
  ask (.append event)

def deny (request : AccessRequest) (decision : AccessDecision) (actorUserId : Option PyStr) :
    Pam AccessResult := do
  appendEvent request .accessDenied none (py "denied") (some decision.reason) actorUserId none
  return ⟨decision, none⟩

def denyWithReason (request : AccessRequest) (reason : PyStr) : Pam AccessResult :=
  deny request ⟨.deny, reason⟩ none

/-- Change the session to a terminal status and append the matching event. -/
def terminate (mutator : DateTime → Session → Except PyExn Session) (request : AccessRequest)
    (eventType : AuditEventType) (result reason : PyStr) : Pam Unit := do
  let endedAt ← terminalTimestamp
  transition (mutator endedAt)
  let session ← currentSession
  appendEvent request eventType (some session.id) result (some reason) none (some endedAt)

def failSession (request : AccessRequest) (reason : PyStr) : Pam Unit :=
  terminate (fun endedAt session => session.markFailed endedAt reason) request .sessionFailed
    (py "failed") reason

/-- The last branch of `handle`. -/
def closeSession (request : AccessRequest) (reason : PyStr) : Pam Unit :=
  terminate (fun endedAt session => session.markClosed endedAt reason) request .sessionClosed
    (py "closed") reason

/-- The handler of a lifecycle append that failed: the record fails, and the
exception goes on. -/
def auditPersistenceFailed {α : Type} (e : PyExn) : Pam α := do
  let endedAt ← terminalTimestamp
  transition (·.markFailed endedAt (py "audit_persistence_failed"))
  throw e

def appendOpening (request : AccessRequest) (decision : AccessDecision) : Pam Unit :=
  exceptException
    (do
      let session ← currentSession
      appendEvent request .accessAllowed (some session.id) (py "allowed") (some decision.reason)
        none none
      appendEvent request .sessionOpening (some session.id) (py "opening") none none none)
    auditPersistenceFailed

def appendActive (request : AccessRequest) : Pam Unit :=
  exceptException
    (do
      let session ← currentSession
      appendEvent request .sessionActive (some session.id) (py "active") none none none)
    auditPersistenceFailed

def closeReasonOf : RelayOutcome → PyStr
  | .maxDurationExceeded => py "max_duration_exceeded"
  | .completed => py "relay_completed"

/-- The terminal transition after the broker session was closed. -/
def endSession (request : AccessRequest) : Option RelayOutcome → Pam Unit
  | none => failSession request (py "relay_failed")
  | some outcome => do
    if (← Prog.memory).closeSucceeded then closeSession request (closeReasonOf outcome)
    else failSession request (py "broker_close_failed")

namespace AccessService

/-- The guarded call of `relay`; `none` is `relay_failure`. -/
def relayOutcome (svc : AccessService) (brokered : svc.sessionBroker.Brokered)
    (terminal : TerminalIO) : Pam (Option RelayOutcome) :=
  exceptException
    (do
      match ← svc.sessionBroker.relay brokered terminal svc.maxSessionDuration with
      | some outcome => return some outcome
      | none => throw (raised .valueError (py "unsupported relay outcome")))
    fun _ => return none

/-- The `finally` block of `handle`. -/
def closeBrokered (svc : AccessService) (brokered : svc.sessionBroker.Brokered) : Pam Unit :=
  exceptException
    (do
      svc.sessionBroker.close brokered
      Prog.modify fun m => { m with closeSucceeded := true })
    fun _ => return ()

/-- The `try` block around the relay, with its `finally` block. -/
def relaySession (svc : AccessService) (request : AccessRequest)
    (brokered : svc.sessionBroker.Brokered) (terminal : TerminalIO) : Pam (Option RelayOutcome) :=
  Prog.tryFinally
    (do
      transition (·.markActive)
      appendActive request
      svc.relayOutcome brokered terminal)
    (svc.closeBrokered brokered)

/-- From the opened broker session to the terminal event. -/
def runBrokered (svc : AccessService) (request : AccessRequest) (decision : AccessDecision)
    (brokered : svc.sessionBroker.Brokered) (terminal : TerminalIO) : Pam AccessResult := do
  Prog.modify fun m => { m with closeSucceeded := false }
  let relayed ← svc.relaySession request brokered terminal
  endSession request relayed
  return ⟨decision, some (← currentSession)⟩

/-- The guarded call of `open_session`; `none` is a broker that failed to open. -/
def openBrokered (svc : AccessService) (request : AccessRequest) (target : Target)
    (account : PrivilegedAccount) (credential : BrokerCredential) :
    Pam (Option svc.sessionBroker.Brokered) :=
  exceptException
    (do return some (← svc.sessionBroker.openSession target account credential))
    fun _ => do
      failSession request (py "broker_open_failed")
      return none

/-- The part of `handle` after the session was built. -/
def runSession (svc : AccessService) (request : AccessRequest) (decision : AccessDecision)
    (target : Target) (account : PrivilegedAccount) (credential : BrokerCredential)
    (terminal : TerminalIO) : Pam AccessResult := do
  appendOpening request decision
  match ← svc.openBrokered request target account credential with
  | none => return ⟨decision, some (← currentSession)⟩
  | some brokered => svc.runBrokered request decision brokered terminal

/-- The part of `handle` after the last check. -/
def startSession (svc : AccessService) (request : AccessRequest) (decision : AccessDecision)
    (target : Target) (account : PrivilegedAccount) (credential : BrokerCredential)
    (terminal : TerminalIO) : Pam AccessResult := do
  let id ← ask .newId
  let startedAt ← ask .now
  let session ← lift (Session.postInit
    { id := id
      requestId := request.id
      userId := request.userId
      targetId := target.id
      accountId := account.id
      status := .opening
      startedAt := startedAt
      endedAt := none
      closeReason := none })
  Prog.modify fun m => { m with session := some session }
  svc.runSession request decision target account credential terminal

/-- The checks of an allowed request on its account and credential. -/
def checkAccount (svc : AccessService) (request : AccessRequest) (decision : AccessDecision)
    (target : Target) (terminal : TerminalIO) : Pam AccessResult := do
  match ← ask (.findForTarget target.id) with
  | none => denyWithReason request (py "account_not_found")
  | some account =>
    if !account.enabled then denyWithReason request (py "privileged_account_disabled")
    else if account.targetId ≠ target.id then denyWithReason request (py "account_target_mismatch")
    else match ← ask (.resolve account.credentialRef) with
      | none => denyWithReason request (py "credential_not_found")
      | some credential => svc.startSession request decision target account credential terminal

/-- The checks of an allowed request on its target. -/
def checkTarget (svc : AccessService) (request : AccessRequest) (decision : AccessDecision)
    (terminal : TerminalIO) : Pam AccessResult := do
  match ← ask (.getTarget request.targetId) with
  | none => denyWithReason request (py "target_not_found")
  | some target =>
    if !target.enabled then denyWithReason request (py "target_disabled")
    else svc.checkAccount request decision target terminal

def handle (svc : AccessService) (principal : AuthenticatedPrincipal) (request : AccessRequest)
    (terminal : TerminalIO) : Pam AccessResult := do
  if principal.userId ≠ request.userId then
    deny request ⟨.deny, py "authenticated_identity_mismatch"⟩ (some principal.userId)
  else
    let decision ← PolicyEvaluation.evaluate
      (fun userId targetId action => ask (.findMatching userId targetId action)) request
    if decision.effect ≠ .allow then deny request decision none
    else svc.checkTarget request decision terminal

end AccessService

/-- `_report_access_result`: the printed line and the exit code. -/
def reportAccessResult (result : AccessResult) : PyStr × ℕ :=
  if result.decision.effect ≠ .allow then (py "Access denied.", 3)
  else match result.session with
    | none => (py "Privileged session failed.", 4)
    | some session =>
      if session.status = .failed then (py "Privileged session failed.", 4)
      else if session.status ≠ .closed then (py "Privileged session failed.", 4)
      else if session.closeReason = some (py "max_duration_exceeded") then
        (py "Session closed: maximum duration reached.", 0)
      else (py "Session closed.", 0)

/-- The command exits successfully for an allowed request with a closed session only. -/
theorem reportAccessResult_success_iff (result : AccessResult) :
    (reportAccessResult result).2 = 0 ↔
      result.decision.effect = .allow ∧ ∃ s, result.session = some s ∧ s.status = .closed := by
  obtain ⟨decision, session⟩ := result
  by_cases hallow : decision.effect = .allow
  · cases session with
    | none => simp [reportAccessResult, hallow]
    | some s =>
      cases hs : s.status <;> simp [reportAccessResult, hallow, hs]
      split <;> rfl
  · simp [reportAccessResult, hallow]

end PamMvp.AccessHandling
