import PamMvp.AccessHandling
import PamMvp.BrokeredSessions

/-!
# The calls each part of a request can make

Calls are sorted into kinds, and `Within kinds p` says that the program `p` makes
calls of these kinds only. The footprints below are what the results about
credentials and about resources need to skip the parts they do not speak about.
-/
namespace PamMvp.CallFootprints
open InteractionPrograms PythonText DomainModel SessionLifecycle PamCalls AccessHandling
open SshConnecting BrokeredSessions

inductive CallKind where
  | check | audit | broker | connect | channel | close | terminal
  deriving DecidableEq

def kind : PamCall → CallKind
  | .findMatching _ _ _ | .getTarget _ | .findForTarget _ | .resolve _ => .check
  | .newId | .now | .append _ => .audit
  | .openSession _ _ _ | .relay _ | .closeSession => .broker
  | .createConnection _ _ _ | .newTransport _ _ | .startClient _ _ | .getRemoteServerKey _
  | .asbytes _ | .authPassword _ _ _ | .isAuthenticated _ => .connect
  | .openChannel _ | .getPty _ _ _ _ | .invokeShell _ | .channelClosed _ | .recv _ _
  | .sendall _ _ => .channel
  | .closeChannel _ | .closeTransport _ | .closeSocket _ => .close
  | .monotonic | .select _ | .readInput _ | .writeOutput _ | .osRead _ _ | .osWrite _ _ => .terminal

/-- Every call of `p` is of one of the kinds. -/
abbrev Within {α : Type} (kinds : List CallKind) (p : Pam α) : Prop :=
  Prog.OnlyCalls (S := pamSignature) (fun c => kind c ∈ kinds) p

section

variable {α β : Type} {kinds : List CallKind}

theorem Within.mono {kinds' : List CallKind} {p : Pam α} (hp : Within kinds p)
    (h : ∀ k ∈ kinds, k ∈ kinds') : Within kinds' p :=
  Prog.OnlyCalls.mono hp fun c hc => h (kind c) hc

theorem Within.ask {c : PamCall} (h : kind c ∈ kinds) : Within kinds (ask c) :=
  Prog.OnlyCalls.perform (S := pamSignature) h

theorem Within.throw (e : PyExn) : Within kinds (throw e : Pam α) := trivial

theorem Within.lift (r : Except PyExn α) : Within kinds (lift r) :=
  Prog.OnlyCalls.ofReply (S := pamSignature) r

theorem Within.pure (a : α) : Within kinds (pure a : Pam α) := trivial

theorem Within.ite {c : Prop} [Decidable c] {p q : Pam α} (hp : Within kinds p)
    (hq : Within kinds q) : Within kinds (if c then p else q) := by
  split
  · exact hp
  · exact hq

theorem Within.memory : Within kinds (Prog.memory : Pam Memory) := fun _ => trivial

theorem Within.modify (f : Memory → Memory) : Within kinds (Prog.modify f : Pam Unit) :=
  fun _ => trivial

theorem Within.exceptWhere {caught : PyExn → Bool} {p : Pam α} {handler : PyExn → Pam α}
    (hp : Within kinds p) (hh : ∀ e, Within kinds (handler e)) :
    Within kinds (exceptWhere caught p handler) := by
  refine Prog.OnlyCalls.tryExcept hp fun e => ?_
  cases caught e with
  | true => exact hh e
  | false => exact Within.throw e

theorem Within.exceptException {p : Pam α} {handler : PyExn → Pam α} (hp : Within kinds p)
    (hh : ∀ e, Within kinds (handler e)) : Within kinds (exceptException p handler) :=
  Within.exceptWhere hp hh

end

section Audit

theorem currentSession_within : Within [.audit] currentSession := by
  refine Within.memory.bind fun m => ?_
  cases m.session with
  | none => exact Within.throw _
  | some session => exact Within.pure session

theorem transition_within (mutator : Session → Except PyExn Session) :
    Within [.audit] (transition mutator) :=
  currentSession_within.bind fun _ => (Within.lift _).bind fun _ => Within.modify _

theorem terminalTimestamp_within : Within [.audit] terminalTimestamp :=
  (Within.ask (by simp [kind])).bind fun _ => currentSession_within.bind fun _ => Within.lift _

theorem appendEvent_within (request : AccessRequest) (eventType : AuditEventType)
    (sessionId : Option PyStr) (result : PyStr) (reasonCode actorUserId : Option PyStr)
    (timestamp : Option DateTimes.DateTime) : Within [.audit]
      (appendEvent request eventType sessionId result reasonCode actorUserId timestamp) := by
  refine (Within.ask (by simp [kind])).bind fun id => Prog.OnlyCalls.bind ?_ fun t => ?_
  · cases timestamp with
    | none => exact Within.ask (by simp [kind])
    | some t => exact Within.pure t
  · exact (Within.lift _).bind fun ev => Within.ask (by simp [kind])

theorem deny_within (request : AccessRequest) (decision : AccessDecision)
    (actorUserId : Option PyStr) : Within [.audit] (deny request decision actorUserId) :=
  (appendEvent_within ..).bind fun _ => Within.pure _

theorem terminate_within (mutator : DateTimes.DateTime → Session → Except PyExn Session)
    (request : AccessRequest) (eventType : AuditEventType) (result reason : PyStr) :
    Within [.audit] (terminate mutator request eventType result reason) :=
  terminalTimestamp_within.bind fun _ => (transition_within _).bind fun _ =>
    currentSession_within.bind fun _ => appendEvent_within ..

theorem auditPersistenceFailed_within {α : Type} (e : PyExn) :
    Within [.audit] (auditPersistenceFailed e : Pam α) :=
  terminalTimestamp_within.bind fun _ => (transition_within _).bind fun _ => Within.throw e

theorem appendOpening_within (request : AccessRequest) (decision : AccessDecision) :
    Within [.audit] (appendOpening request decision) := by
  refine Within.exceptException ?_ auditPersistenceFailed_within
  exact currentSession_within.bind fun _ =>
    (appendEvent_within ..).bind fun _ => appendEvent_within ..

theorem appendActive_within (request : AccessRequest) :
    Within [.audit] (appendActive request) := by
  refine Within.exceptException ?_ auditPersistenceFailed_within
  exact currentSession_within.bind fun _ => appendEvent_within ..

theorem endSession_within (request : AccessRequest) (relayed : Option RelayOutcome) :
    Within [.audit] (endSession request relayed) := by
  cases relayed with
  | none => exact terminate_within ..
  | some outcome =>
    refine Within.memory.bind fun m => ?_
    cases m.closeSucceeded with
    | true => exact terminate_within ..
    | false => exact terminate_within ..

end Audit

section Ssh

theorem closeConnection_within (connection : VerifiedSshConnection) :
    Within [.close] connection.close := by
  refine Within.memory.bind fun m => ?_
  cases m.connectionClosed with
  | true => exact Within.pure ()
  | false =>
    refine (Within.modify _).bind fun _ => Prog.OnlyCalls.tryFinally ?_ ?_
    · exact Within.ask (by simp [kind])
    · exact Within.ask (by simp [kind])

theorem closeChannel_within (channel : InteractiveSshChannel) :
    Within [.close] channel.close := by
  refine Within.memory.bind fun m => ?_
  cases m.channelClosed with
  | true => exact Within.pure ()
  | false => exact (Within.modify _).bind fun _ => Within.ask (by simp [kind])

theorem closeBrokered_within (session : ParamikoBrokeredSession) :
    Within [.close] session.close := by
  refine Within.memory.bind fun m => ?_
  cases m.brokeredClosed with
  | true => exact Within.pure ()
  | false =>
    refine (Within.modify _).bind fun _ => Prog.OnlyCalls.tryFinally ?_ ?_
    · exact closeChannel_within session.channel
    · exact closeConnection_within session.connection

theorem suppressed_within {kinds : List CallKind} {p : Pam Unit} (hp : Within kinds p) :
    Within kinds (suppressed p) :=
  hp.exceptException fun _ => Within.pure ()

theorem closeResources_within (transport socket : Option Handle) :
    Within [.close] (closeResources transport socket) := by
  refine Prog.OnlyCalls.bind ?_ fun _ => ?_
  · cases transport with
    | none => exact Within.pure ()
    | some transport => exact suppressed_within (Within.ask (by simp [kind]))
  · cases socket with
    | none => exact Within.pure ()
    | some socket => exact suppressed_within (Within.ask (by simp [kind]))

theorem negotiate_within (connector : ParamikoSshConnector) (target : Target) (socket : Handle) :
    Within [.connect, .close] (connector.negotiate target socket) := by
  refine Within.exceptException ?_ fun e => ?_
  · refine (Within.ask (by simp [kind])).bind fun transport => (Within.modify _).bind fun _ => ?_
    refine (Within.ask (by simp [kind])).bind fun _ => ?_
    exact (Within.ask (by simp [kind])).bind fun _ => Within.pure _
  · refine Within.memory.bind fun m => Prog.OnlyCalls.bind ?_ fun _ => Within.throw _
    exact (closeResources_within _ _).mono (by simp)

theorem verifyPinnedHostKey_within (sha256 : Bytes → Bytes) (target : Target) (serverKey : Handle) :
    Within [.connect, .close] (verifyPinnedHostKey sha256 target serverKey) := by
  refine (Within.ask (by simp [kind])).bind fun keyBlob => (Within.lift _).bind fun equal => ?_
  cases equal with
  | true => exact Within.pure ()
  | false => exact Within.throw _

theorem authenticate_within (transport : Handle) (account : PrivilegedAccount)
    (credential : BrokerCredential) :
    Within [.connect, .close] (ParamikoSshConnector.authenticate transport account credential) := by
  unfold ParamikoSshConnector.authenticate
  cases decodeUtf8 credential.value with
  | none => exact Within.throw _
  | some password =>
    refine Prog.OnlyCalls.bind ?_ fun _ =>
      (Within.ask (by simp [kind])).bind fun authenticated => ?_
    · exact (Within.ask (by simp [kind])).exceptWhere fun _ => Within.throw _
    · cases authenticated with
      | true => exact Within.pure ()
      | false => exact Within.throw _

theorem closingOnError_within {transport socket : Handle} {cls : ExnClass} {error : PyExn}
    {p : Pam Unit} (hp : Within [.connect, .close] p) :
    Within [.connect, .close]
      (ParamikoSshConnector.closingOnError transport socket cls error p) := by
  refine hp.exceptException fun e => Prog.OnlyCalls.bind ?_ fun _ => Within.throw _
  exact (closeResources_within _ _).mono (by simp)

theorem connect_within (connector : ParamikoSshConnector) (target : Target)
    (account : PrivilegedAccount) (credential : BrokerCredential) :
    Within [.connect, .close] (connector.connect target account credential) := by
  refine (Within.modify _).bind fun _ => Prog.OnlyCalls.bind ?_ fun socket => ?_
  · exact (Within.ask (by simp [kind])).exceptWhere fun _ => Within.throw _
  · refine (negotiate_within connector target socket).bind fun negotiated => ?_
    refine (closingOnError_within (verifyPinnedHostKey_within _ _ _)).bind fun _ => ?_
    refine (closingOnError_within (authenticate_within _ _ _)).bind fun _ => ?_
    exact (Within.modify _).bind fun _ => Within.pure _

theorem openChannel_within (connection : VerifiedSshConnection) :
    Within [.channel, .close] (InteractiveSshChannel.open connection) := by
  have hrequest (channel : Handle) (request : Pam Unit) (message : PyStr)
      (h : Within [.channel, .close] request) : Within [.channel, .close]
        (InteractiveSshChannel.requestOrClose channel request message) := by
    refine h.exceptException fun _ => Prog.OnlyCalls.bind ?_ fun _ => Within.throw _
    exact suppressed_within (Within.ask (by simp [kind]))
  refine Prog.OnlyCalls.bind ?_ fun channel => ?_
  · refine Within.exceptException (Within.memory.bind fun m => ?_) fun _ => Within.throw _
    cases m.connectionClosed with
    | true => exact Within.throw _
    | false => exact Within.ask (by simp [kind])
  · refine (hrequest _ _ _ (Within.ask (by simp [kind]))).bind fun _ => ?_
    refine (hrequest _ _ _ (Within.ask (by simp [kind]))).bind fun _ => ?_
    exact (Within.modify _).bind fun _ => Within.pure _

theorem relayLoop_within (channel : InteractiveSshChannel) (deadline : ℚ) (maxBytes fuel : ℕ) :
    Within [.channel, .terminal] (relayLoop channel portTerminal deadline maxBytes fuel) := by
  have hremote (ready : Bool) :
      Within [.channel, .terminal] (relayRemote channel portTerminal maxBytes ready) := by
    cases ready with
    | false => exact Within.pure _
    | true =>
      refine (Within.ask (by simp [kind])).bind fun data => ?_
      refine Within.ite (Within.pure true) ?_
      exact (Within.ask (by simp [kind])).bind fun _ => Within.pure false
  have hlocal (ready : Bool) :
      Within [.channel, .terminal] (relayLocal channel portTerminal maxBytes ready) := by
    cases ready with
    | false => exact Within.pure _
    | true =>
      refine (Within.ask (by simp [kind])).bind fun data => ?_
      refine Within.ite (Within.pure true) ?_
      exact (Within.ask (by simp [kind])).bind fun _ => Within.pure false
  induction fuel with
  | zero => trivial
  | succ fuel ih =>
    refine Prog.OnlyCalls.bind (Within.memory.bind fun m => ?_) fun closed => ?_
    · cases m.channelClosed with
      | true => exact Within.pure true
      | false => exact Within.ask (by simp [kind])
    · cases closed with
      | true => exact Within.pure _
      | false =>
        refine (Within.ask (by simp [kind])).bind fun now => ?_
        refine Within.ite (Within.pure _) ?_
        refine (Within.ask (by simp [kind])).bind fun readable => ?_
        refine (Within.ask (by simp [kind])).bind fun later => Within.ite (Within.pure _) ?_
        refine (hremote _).bind fun ended => ?_
        cases ended with
        | true => exact Within.pure _
        | false =>
          refine (hlocal _).bind fun ended => ?_
          cases ended with
          | true => exact Within.pure _
          | false => exact ih

theorem relayTerminal_within (fuel : ℕ) (channel : InteractiveSshChannel) (maxDuration : ℤ) :
    Within [.channel, .terminal, .close] (relayTerminal fuel channel portTerminal maxDuration) := by
  unfold relayTerminal
  refine Within.ite (Within.throw _) ?_
  refine (Within.ask (by simp [kind])).bind fun start => Prog.OnlyCalls.tryFinally ?_ ?_
  · exact ((relayLoop_within channel _ _ fuel).mono (by simp)).exceptException
      fun _ => Within.throw _
  · exact (closeChannel_within channel).mono (by simp)

theorem relay_within (fuel : ℕ) (session : ParamikoBrokeredSession) (maxDuration : ℤ) :
    Within [.channel, .terminal, .close] (session.relay fuel portTerminal maxDuration) := by
  refine Within.memory.bind fun m => ?_
  cases m.brokeredClosed with
  | true => exact Within.throw _
  | false =>
    exact (relayTerminal_within fuel session.channel maxDuration).bind fun _ => Within.pure _

end Ssh

end PamMvp.CallFootprints
