import PamMvp.DateTimes

/-!
# Domain records and exceptions

Frozen dataclasses carry what their constructor checked. The other dataclasses
can be changed after construction, so they are plain records, and `postInit` is
the check of the constructor. Exceptions carry their class and their text.
-/
namespace PamMvp.DomainModel
open PythonText DateTimes

/-- Exception classes that the code raises, catches by name, or lets through. -/
inductive ExnClass where
  | valueError | typeError | unicodeEncodeError | unicodeDecodeError | overflowError
  | osError | fileExistsError | sshException
  | sshConnectionError | hostKeyMismatchError | sshAuthenticationError | sshChannelError
  | policyStorageError | duplicatePolicyError | malformedPolicyError
  | auditStorageError | duplicateAuditEventError | auditIntegrityError
  | unsupportedAuditSchemaError
  | vaultError | duplicateCredentialError | unsupportedVaultSchemaError
  | secretCipherError | invalidTag | keyProviderError
  | configStorageError | duplicateTargetError | duplicatePrivilegedAccountError
  | malformedTargetError | malformedPrivilegedAccountError | ambiguousPrivilegedAccountError
  | userAuthStorageError | duplicateUserIdError | duplicateUsernameError | malformedUserAuthError
  | unsupportedUserAuthSchemaError | passwordHashingError | authenticationFailedError
  | databasePermissionError | labProvisioningError | applicationConfigurationError
  | sqliteError | sqliteIntegrityError | eofError
  | otherException
  | keyboardInterrupt
  deriving DecidableEq

structure PyExn where
  cls : ExnClass
  message : PyStr
  deriving DecidableEq

/-- Instances of `Exception`; a `KeyboardInterrupt` is only a `BaseException`. -/
def PyExn.isException (e : PyExn) : Bool := e.cls != .keyboardInterrupt

def raised (cls : ExnClass) (message : PyStr) : PyExn := ⟨cls, message⟩

theorem except_bind_ok_iff {ε α β : Type} (x : Except ε α) (f : α → Except ε β) (b : β) :
    (x >>= f) = .ok b ↔ ∃ a, x = .ok a ∧ f a = .ok b := by
  cases x with
  | error e => simp [bind, Except.bind]
  | ok a => simp [bind, Except.bind]

theorem except_bind_error {ε α β : Type} {x : Except ε α} {f : α → Except ε β} {e : ε}
    (h : (x >>= f) = .error e) : x = .error e ∨ ∃ a, x = .ok a ∧ f a = .error e := by
  cases x with
  | error e' =>
    cases h
    exact .inl rfl
  | ok a => exact .inr ⟨a, rfl, h⟩

theorem mapError_ok_iff {ε ε' α : Type} (f : ε → ε') (r : Except ε α) (a : α) :
    r.mapError f = .ok a ↔ r = .ok a := by
  cases r <;> simp [Except.mapError]

inductive AccessAction where
  | openPrivilegedSession
  deriving DecidableEq

def AccessAction.value : AccessAction → PyStr
  | .openPrivilegedSession => py "open_privileged_session"

/-- `AccessAction(text)`; `none` is `ValueError`. -/
def AccessAction.parse (text : PyStr) : Option AccessAction :=
  if text = AccessAction.openPrivilegedSession.value then some .openPrivilegedSession else none

inductive AccessEffect where
  | allow | deny | requiresApproval
  deriving DecidableEq

def AccessEffect.value : AccessEffect → PyStr
  | .allow => py "allow"
  | .deny => py "deny"
  | .requiresApproval => py "requires_approval"

/-- `AccessEffect(text)`; `none` is `ValueError`. -/
def AccessEffect.parse (text : PyStr) : Option AccessEffect :=
  if text = AccessEffect.allow.value then some .allow
  else if text = AccessEffect.deny.value then some .deny
  else if text = AccessEffect.requiresApproval.value then some .requiresApproval
  else none

@[simp] theorem AccessAction.parse_value (a : AccessAction) : parse a.value = some a := by
  cases a
  simp [parse]

@[simp] theorem AccessEffect.parse_value (e : AccessEffect) : parse e.value = some e := by
  cases e <;> decide

structure AccessDecision where
  effect : AccessEffect
  reason : PyStr
  deriving DecidableEq

/-- The constructor's test of one text field. -/
def requireNonblank (value message : PyStr) : Except PyExn Unit :=
  if blank value then .error (raised .valueError message) else .ok ()

theorem requireNonblank_ok_iff (value message : PyStr) (u : Unit) :
    requireNonblank value message = .ok u ↔ blank value = false := by
  unfold requireNonblank
  cases blank value <;> simp

structure AccessPolicy where
  id : PyStr
  userId : PyStr
  targetId : PyStr
  action : AccessAction
  effect : AccessEffect
  deriving DecidableEq

def AccessPolicy.postInit (p : AccessPolicy) : Except PyExn AccessPolicy := do
  requireNonblank p.id (py "access policy id cannot be empty")
  requireNonblank p.userId (py "user id cannot be empty")
  requireNonblank p.targetId (py "target id cannot be empty")
  return p

structure AccessRequest where
  id : PyStr
  userId : PyStr
  targetId : PyStr
  action : AccessAction
  requestedAt : DateTime
  deriving DecidableEq

def AccessRequest.postInit (r : AccessRequest) : Except PyExn AccessRequest := do
  requireNonblank r.id (py "access request id cannot be empty")
  requireNonblank r.userId (py "user id cannot be empty")
  requireNonblank r.targetId (py "target id cannot be empty")
  if r.requestedAt.aware then return r
  else .error (raised .valueError (py "requested_at must be timezone-aware"))

inductive AuditEventType where
  | accessAllowed | accessDenied | sessionOpening | sessionActive | sessionClosed | sessionFailed
  deriving DecidableEq

def AuditEventType.value : AuditEventType → PyStr
  | .accessAllowed => py "access_allowed"
  | .accessDenied => py "access_denied"
  | .sessionOpening => py "session_opening"
  | .sessionActive => py "session_active"
  | .sessionClosed => py "session_closed"
  | .sessionFailed => py "session_failed"

structure AuditEvent where
  id : PyStr
  timestamp : DateTime
  eventType : AuditEventType
  actorUserId : PyStr
  targetId : PyStr
  sessionId : Option PyStr
  result : PyStr
  reasonCode : Option PyStr
  deriving DecidableEq

def AuditEvent.postInit (ev : AuditEvent) : Except PyExn AuditEvent :=
  if ev.timestamp.aware then .ok ev
  else .error (raised .valueError (py "timestamp must be timezone-aware"))

structure AuthenticatedPrincipal where
  userId : PyStr
  username : PyStr
  userId_nonblank : blank userId = false
  username_nonblank : blank username = false

structure CredentialRef where
  id : PyStr
  id_nonblank : blank id = false
  deriving DecidableEq

/-- `CredentialRef(id)`. -/
def CredentialRef.new (id : PyStr) : Except PyExn CredentialRef :=
  if h : blank id = false then .ok ⟨id, h⟩
  else .error (raised .valueError (py "credential reference id cannot be empty"))

structure PrivilegedAccount where
  id : PyStr
  targetId : PyStr
  username : PyStr
  credentialRef : CredentialRef
  enabled : Bool
  deriving DecidableEq

def PrivilegedAccount.postInit (account : PrivilegedAccount) : Except PyExn PrivilegedAccount := do
  requireNonblank account.id (py "privileged account id cannot be empty")
  requireNonblank account.targetId (py "target id cannot be empty")
  requireNonblank account.username (py "username cannot be empty")
  return account

structure HostKeyFingerprint where
  value : PyStr
  value_prefix : (py "SHA256:").isPrefixOf value = true
  deriving DecidableEq

/-- `HostKeyFingerprint(value)`. -/
def HostKeyFingerprint.new (value : PyStr) : Except PyExn HostKeyFingerprint :=
  if h : (py "SHA256:").isPrefixOf value = true then .ok ⟨value, h⟩
  else .error (raised .valueError (py "SSH host key fingerprint must start with 'SHA256:'"))

structure Target where
  id : PyStr
  name : PyStr
  host : PyStr
  port : ℤ
  expectedHostKey : HostKeyFingerprint
  enabled : Bool
  deriving DecidableEq

def Target.postInit (target : Target) : Except PyExn Target := do
  requireNonblank target.id (py "target id cannot be empty")
  requireNonblank target.name (py "target name cannot be empty")
  requireNonblank target.host (py "target host cannot be empty")
  if 1 ≤ target.port ∧ target.port ≤ 65535 then return target
  else .error (raised .valueError (py "target port must be between 1 and 65535"))

structure User where
  id : PyStr
  username : PyStr
  isActive : Bool
  deriving DecidableEq

def User.postInit (user : User) : Except PyExn User := do
  requireNonblank user.id (py "user id cannot be empty")
  requireNonblank user.username (py "username cannot be empty")
  return user

structure BrokerCredential where
  value : Bytes
  deriving DecidableEq

inductive RelayOutcome where
  | completed | maxDurationExceeded
  deriving DecidableEq

end PamMvp.DomainModel
