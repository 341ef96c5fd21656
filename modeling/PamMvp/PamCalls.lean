import PamMvp.InteractionPrograms
import PamMvp.SessionLifecycle
import Mathlib.Data.Rat.Defs

/-!
# The outside world of one access request

Every call that the access path makes to something it does not define: its
repositories, the vault, the audit log, the clock, sockets, Paramiko, `select`
and the terminal. Objects that Paramiko and the socket library hand out are
known by a handle only.
-/
namespace PamMvp.PamCalls
open InteractionPrograms PythonText DateTimes DomainModel SessionLifecycle

abbrev Handle : Type := ℕ

inductive PamCall where
  -- ports of the access service
  | findMatching (userId targetId : PyStr) (action : AccessAction)
  | getTarget (targetId : PyStr)
  | findForTarget (targetId : PyStr)
  | resolve (credentialRef : CredentialRef)
  | newId
  | now
  | append (event : AuditEvent)
  -- a session broker behind its port
  | openSession (target : Target) (account : PrivilegedAccount) (credential : BrokerCredential)
  | relay (maxDuration : ℤ)
  | closeSession
  -- sockets and Paramiko
  | createConnection (host : PyStr) (port : ℤ) (timeout : ℚ)
  | newTransport (socket : Handle) (disabled : List (PyStr × List PyStr))
  | startClient (transport : Handle) (timeout : ℚ)
  | getRemoteServerKey (transport : Handle)
  | asbytes (serverKey : Handle)
  | authPassword (transport : Handle) (username password : PyStr)
  | isAuthenticated (transport : Handle)
  | openChannel (transport : Handle)
  | getPty (channel : Handle) (term : PyStr) (width height : ℕ)
  | invokeShell (channel : Handle)
  | channelClosed (channel : Handle)
  | recv (channel : Handle) (maxBytes : ℕ)
  | sendall (channel : Handle) (data : Bytes)
  | closeChannel (channel : Handle)
  | closeTransport (transport : Handle)
  | closeSocket (socket : Handle)
  -- terminal and time
  | monotonic
  | select (timeout : ℚ)
  | readInput (maxBytes : ℕ)
  | writeOutput (data : Bytes)
  | osRead (fd maxBytes : ℕ)
  | osWrite (fd : ℕ) (data : Bytes)

/-- What `select` reports ready for reading. -/
structure Readable where
  terminal : Bool
  channel : Bool

/-- A relay may return an object that is no `RelayOutcome`: that is `none`. -/
abbrev PamCall.Answer : PamCall → Type
  | .findMatching _ _ _ => List AccessPolicy
  | .getTarget _ => Option Target
  | .findForTarget _ => Option PrivilegedAccount
  | .resolve _ => Option BrokerCredential
  | .newId => PyStr
  | .now => DateTime
  | .relay _ => Option RelayOutcome
  | .createConnection _ _ _ | .newTransport _ _ | .getRemoteServerKey _ | .openChannel _ => Handle
  | .asbytes _ | .recv _ _ | .readInput _ | .osRead _ _ => Bytes
  | .osWrite _ _ => ℕ
  | .isAuthenticated _ | .channelClosed _ => Bool
  | .monotonic => ℚ
  | .select _ => Readable
  | _ => Unit

abbrev pamSignature : Signature := ⟨PamCall, PamCall.Answer, PyExn⟩

/-- Attributes of the objects a request builds, and the local variables that an
exception handler or a `finally` block shares with the guarded block. A request
builds at most one object of each kind, so one flag stands for the `_closed`
attribute of each. -/
structure Memory where
  session : Option Session
  closeSucceeded : Bool
  transport : Option Handle
  brokeredClosed : Bool
  channelClosed : Bool
  connectionClosed : Bool

abbrev Pam (α : Type) : Type := Prog pamSignature Memory α

abbrev PamEvent : Type := Event pamSignature

abbrev PamOutcome (α : Type) : Type := Outcome pamSignature α

def ask (c : PamCall) : Pam c.Answer := Prog.perform (S := pamSignature) c

def throw {α : Type} (e : PyExn) : Pam α := Prog.raise (S := pamSignature) e

def lift {α : Type} (r : Except PyExn α) : Pam α := Prog.ofReply (S := pamSignature) r

/-- `try: p except C: handler`, where `caught` are the instances of `C`. -/
def exceptWhere {α : Type} (caught : PyExn → Bool) (p : Pam α) (handler : PyExn → Pam α) : Pam α :=
  p.tryExcept fun e => if caught e then handler e else throw e

/-- `try: p except Exception: handler`. -/
def exceptException {α : Type} (p : Pam α) (handler : PyExn → Pam α) : Pam α :=
  exceptWhere PyExn.isException p handler

/-- `AccessResult`. -/
structure AccessResult where
  decision : AccessDecision
  session : Option Session

structure TerminalIO where
  readInput : ℕ → Pam Bytes
  writeOutput : Bytes → Pam Unit

/-- `SessionBroker` with the brokered sessions it hands out. -/
structure SessionBroker where
  Brokered : Type
  openSession : Target → PrivilegedAccount → BrokerCredential → Pam Brokered
  relay : Brokered → TerminalIO → ℤ → Pam (Option RelayOutcome)
  close : Brokered → Pam Unit

/-- A broker known by its port only: every call is answered by the world. -/
def portBroker : SessionBroker where
  Brokered := Unit
  openSession target account credential := ask (.openSession target account credential)
  relay _ _ maxDuration := ask (.relay maxDuration)
  close _ := ask .closeSession

def portTerminal : TerminalIO where
  readInput maxBytes := ask (.readInput maxBytes)
  writeOutput data := ask (.writeOutput data)

@[simp] theorem ensures_ask (c : PamCall) (m : Memory)
    (Q : List PamEvent → PamOutcome c.Answer → Memory → Prop) :
    (ask c).Ensures m Q ↔
      (∀ a, Q [⟨c, .ok a⟩] (.ret a) m) ∧ ∀ e, Q [⟨c, .error e⟩] (.raise e) m :=
  Prog.ensures_perform (S := pamSignature) c m Q

@[simp] theorem ensures_throw {α : Type} (e : PyExn) (m : Memory)
    (Q : List PamEvent → PamOutcome α → Memory → Prop) :
    (throw e).Ensures m Q ↔ Q [] (.raise e) m :=
  Prog.ensures_raise (S := pamSignature) e m Q

theorem ensures_lift {α : Type} (r : Except PyExn α) (m : Memory)
    (Q : List PamEvent → PamOutcome α → Memory → Prop) :
    (lift r).Ensures m Q ↔
      (∀ a, r = .ok a → Q [] (.ret a) m) ∧ ∀ e, r = .error e → Q [] (.raise e) m := by
  cases r with
  | ok a => simp [lift, Prog.ofReply]
  | error e => simp [lift, Prog.ofReply]

theorem ensures_exceptWhere {α : Type} {caught : PyExn → Bool} {p : Pam α}
    {handler : PyExn → Pam α} {m : Memory} {P Q : List PamEvent → PamOutcome α → Memory → Prop}
    (hp : p.Ensures m P) (hret : ∀ tr a m', P tr (.ret a) m' → Q tr (.ret a) m')
    (hother : ∀ tr e m', P tr (.raise e) m' → caught e = false → Q tr (.raise e) m')
    (hraise : ∀ tr e m', P tr (.raise e) m' → caught e = true →
      (handler e).Ensures m' fun tr' o m'' => Q (tr ++ tr') o m'') :
    (exceptWhere caught p handler).Ensures m Q := by
  refine hp.tryExcept hret fun tr e m' h => ?_
  cases he : caught e with
  | true => simpa [he] using hraise tr e m' h he
  | false => simpa [he] using hother tr e m' h he

theorem ensures_exceptException {α : Type} {p : Pam α} {handler : PyExn → Pam α} {m : Memory}
    {P Q : List PamEvent → PamOutcome α → Memory → Prop} (hp : p.Ensures m P)
    (hret : ∀ tr a m', P tr (.ret a) m' → Q tr (.ret a) m')
    (hother : ∀ tr e m', P tr (.raise e) m' → PyExn.isException e = false → Q tr (.raise e) m')
    (hraise : ∀ tr e m', P tr (.raise e) m' → PyExn.isException e = true →
      (handler e).Ensures m' fun tr' o m'' => Q (tr ++ tr') o m'') :
    (exceptException p handler).Ensures m Q :=
  ensures_exceptWhere hp hret hother hraise

end PamMvp.PamCalls
