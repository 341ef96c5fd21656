import PamMvp.DomainModel
import PamMvp.InteractionPrograms

/-!
# Authentication of a local user

`authenticate` asks the user repository for a record and the password hasher for a
verdict, and both may answer or raise anything. Whatever they do, the password is
verified once, and every refusal looks the same to the caller.
-/
namespace PamMvp.UserAuthentication
open InteractionPrograms PythonText DomainModel

/-- Any Python object, as far as the service looks at it. -/
inductive PyObject where
  | str (s : PyStr)
  | bool (b : Bool)
  | other
  deriving DecidableEq

/-- A `User` as a repository may return it: nothing checks the field types. -/
structure UserObject where
  id : PyObject
  username : PyObject
  isActive : PyObject

structure StoredUserAuthentication where
  user : UserObject
  passwordHash : PyStr

inductive AuthCall where
  | findByUsername (username : PyStr)
  | verify (password encodedHash : PyStr)

abbrev AuthCall.Answer : AuthCall → Type
  | .findByUsername _ => Option StoredUserAuthentication
  | .verify _ _ => PyObject

abbrev authSignature : Signature := ⟨AuthCall, AuthCall.Answer, PyExn⟩

abbrev Auth (α : Type) : Type := Prog authSignature Unit α

def ask (c : AuthCall) : Auth c.Answer := Prog.perform (S := authSignature) c

def throw {α : Type} (e : PyExn) : Auth α := Prog.raise (S := authSignature) e

/-- `try: p except Exception: handler`. -/
def exceptException {α : Type} (p : Auth α) (handler : Auth α) : Auth α :=
  p.tryExcept fun e => if e.isException then handler else throw e

def authenticationFailed : PyExn :=
  raised .authenticationFailedError (py "authentication failed")

/-- `AuthenticatedPrincipal(user_id=..., username=...)`. -/
def newPrincipal (userId username : PyObject) : Except PyExn AuthenticatedPrincipal :=
  match userId with
  | .str u =>
    if hu : blank u = false then
      match username with
      | .str n =>
        if hn : blank n = false then .ok ⟨u, n, hu, hn⟩
        else .error (raised .valueError (py "principal username cannot be empty"))
      | _ => .error (raised .valueError (py "principal username cannot be empty"))
    else .error (raised .valueError (py "principal user id cannot be empty"))
  | _ => .error (raised .valueError (py "principal user id cannot be empty"))

/-- The service with the hash that it computed when it was built. -/
structure AuthenticationService where
  dummyHash : PyStr

namespace AuthenticationService

def verifyDummy (svc : AuthenticationService) (password : PyStr) : Auth Unit :=
  exceptException
    (do
      let _ ← ask (.verify password svc.dummyHash)
      return ())
    (return ())

/-- The guarded lookup; an exception still costs one verification. -/
def lookUp (svc : AuthenticationService) (username password : PyStr) :
    Auth (Option StoredUserAuthentication) :=
  exceptException (ask (.findByUsername username)) do
    svc.verifyDummy password
    throw authenticationFailed

/-- The last `try` block, which catches a `TypeError` or a `ValueError`. -/
def principalOf (user : UserObject) : Auth AuthenticatedPrincipal :=
  match newPrincipal user.id user.username with
  | .ok principal => return principal
  | .error e =>
    if e.cls = .typeError ∨ e.cls = .valueError then throw authenticationFailed else throw e

def encodedHash (svc : AuthenticationService) : Option StoredUserAuthentication → PyStr
  | none => svc.dummyHash
  | some stored => stored.passwordHash

def conclude (stored : Option StoredUserAuthentication) (passwordMatches : PyObject) :
    Auth AuthenticatedPrincipal :=
  match stored with
  | none => throw authenticationFailed
  | some stored =>
    if stored.user.isActive ≠ .bool true ∨ passwordMatches ≠ .bool true then
      throw authenticationFailed
    else principalOf stored.user

def authenticate (svc : AuthenticationService) (username password : PyStr) :
    Auth AuthenticatedPrincipal := do
  let stored ← svc.lookUp username password
  let passwordMatches ← exceptException (ask (.verify password (svc.encodedHash stored)))
    (throw authenticationFailed)
  conclude stored passwordMatches

end AuthenticationService

/-- How the repository and the hasher behave: they may answer by everything they
were asked before, and every exception of theirs is an `Exception`. -/
structure Collaborators where
  reply : List (Event authSignature) → (c : AuthCall) → Reply authSignature c
  exception : ∀ past c e, reply past c = .error e → e.isException = true

/-- The password of a verification. -/
def verifiedPassword : Event authSignature → Option PyStr
  | ⟨.verify password _, _⟩ => some password
  | _ => none

/-- What the caller sees, and the passwords that were verified. -/
def observed (svc : AuthenticationService) (world : Collaborators) (username password : PyStr) :
    Option (Outcome authSignature AuthenticatedPrincipal × List PyStr) :=
  ((svc.authenticate username password).exec world.reply [] ()).map fun run =>
    (run.2.1, run.1.filterMap verifiedPassword)

/-- The record grants the principal: its user is active and has the id and the
name, which are no blank strings. -/
structure Grants (stored : StoredUserAuthentication) (principal : AuthenticatedPrincipal) :
    Prop where
  active : stored.user.isActive = .bool true
  userId : stored.user.id = .str principal.userId
  username : stored.user.username = .str principal.username

/-- The repository returns a record that grants the principal, and the password is
verified against the hash of that record. -/
def Admits (world : Collaborators) (username password : PyStr)
    (principal : AuthenticatedPrincipal) : Prop :=
  ∃ stored, world.reply [] (.findByUsername username) = .ok (some stored) ∧
    Grants stored principal ∧
    world.reply [⟨.findByUsername username, .ok (some stored)⟩]
      (.verify password stored.passwordHash) = .ok (.bool true)

theorem newPrincipal_ok_iff (userId username : PyObject) (principal : AuthenticatedPrincipal) :
    newPrincipal userId username = .ok principal ↔
      userId = .str principal.userId ∧ username = .str principal.username := by
  constructor
  · intro h
    cases userId with
    | str u =>
      cases username with
      | str n =>
        simp only [newPrincipal] at h
        split_ifs at h
        cases h
        exact ⟨rfl, rfl⟩
      | bool b =>
        simp only [newPrincipal] at h
        split_ifs at h
      | other =>
        simp only [newPrincipal] at h
        split_ifs at h
    | bool b => cases h
    | other => cases h
  · intro h
    obtain ⟨rfl, rfl⟩ := h
    simp [newPrincipal, principal.userId_nonblank, principal.username_nonblank]

theorem newPrincipal_error {userId username : PyObject} {e : PyExn}
    (h : newPrincipal userId username = .error e) : e.cls = .valueError := by
  unfold newPrincipal at h
  split at h
  · split_ifs at h
    · split at h
      · split_ifs at h
        cases h
        rfl
      · cases h
        rfl
    · cases h
      rfl
  · cases h
    rfl

theorem Grants.unique {stored : StoredUserAuthentication} {p q : AuthenticatedPrincipal}
    (hp : Grants stored p) (hq : Grants stored q) : p = q := by
  have hid := PyObject.str.inj (hp.userId.symm.trans hq.userId)
  have hname := PyObject.str.inj (hp.username.symm.trans hq.username)
  cases p
  cases q
  simp_all

/-- The last checks grant a principal, or they refuse in the one way. -/
theorem conclude_cases (stored : Option StoredUserAuthentication) (passwordMatches : PyObject) :
    (∃ record principal, stored = some record ∧ Grants record principal ∧
      passwordMatches = .bool true ∧
      AuthenticationService.conclude stored passwordMatches = .ret principal) ∨
    ((∀ record principal, stored = some record → Grants record principal →
      passwordMatches ≠ .bool true) ∧
      AuthenticationService.conclude stored passwordMatches = .raise authenticationFailed) := by
  cases stored with
  | none => exact .inr ⟨nofun, rfl⟩
  | some record =>
    by_cases hchecks : record.user.isActive = .bool true ∧ passwordMatches = .bool true
    · have hconclude : AuthenticationService.conclude (some record) passwordMatches =
          AuthenticationService.principalOf record.user := by
        simp [AuthenticationService.conclude, hchecks]
      rw [hconclude]
      unfold AuthenticationService.principalOf
      cases hnew : newPrincipal record.user.id record.user.username with
      | ok principal =>
        obtain ⟨hid, hname⟩ := (newPrincipal_ok_iff _ _ principal).mp hnew
        exact .inl ⟨record, principal, rfl, ⟨hchecks.1, hid, hname⟩, hchecks.2, rfl⟩
      | error e =>
        refine .inr ⟨fun other principal hother hgrants => ?_, ?_⟩
        · cases hother
          rw [(newPrincipal_ok_iff _ _ principal).mpr ⟨hgrants.userId, hgrants.username⟩] at hnew
          cases hnew
        · simp only [newPrincipal_error hnew, or_true, if_true]
          rfl
    · refine .inr ⟨fun other principal hother hgrants hmatches => ?_, ?_⟩
      · cases hother
        exact hchecks ⟨hgrants.active, hmatches⟩
      · have hrefused : record.user.isActive ≠ .bool true ∨ passwordMatches ≠ .bool true :=
          not_and_or.mp hchecks
        simp only [AuthenticationService.conclude, hrefused, if_true]
        rfl

section Observed

variable (svc : AuthenticationService) (world : Collaborators) (username password : PyStr)

/-- A lookup that raises costs one verification and is refused. -/
theorem observed_of_error {e : PyExn}
    (hfind : world.reply [] (.findByUsername username) = .error e) :
    observed svc world username password = some (.raise authenticationFailed, [password]) := by
  have hexn : e.isException = true := world.exception _ _ _ hfind
  simp only [observed, AuthenticationService.authenticate, AuthenticationService.lookUp,
    AuthenticationService.verifyDummy, exceptException, ask, Prog.perform, bind, Prog.bind,
    Prog.tryExcept, Prog.exec, hfind, Prog.ofReply, hexn, if_true]
  generalize hverify : world.reply _ (.verify password svc.dummyHash) = r
  cases r with
  | ok v => rfl
  | error e' =>
    have hexn' : e'.isException = true := world.exception _ _ _ hverify
    simp only [Prog.bind, Prog.tryExcept, hexn', if_true]
    rfl

/-- After a lookup the password is verified against the found or the dummy hash. -/
theorem observed_of_found {stored : Option StoredUserAuthentication}
    (hfind : world.reply [] (.findByUsername username) = .ok stored) :
    observed svc world username password =
      match world.reply [⟨.findByUsername username, .ok stored⟩]
        (.verify password (svc.encodedHash stored)) with
      | .ok passwordMatches =>
        match AuthenticationService.conclude stored passwordMatches with
        | .ret principal => some (.ret principal, [password])
        | _ => some (.raise authenticationFailed, [password])
      | .error _ => some (.raise authenticationFailed, [password]) := by
  simp only [observed, AuthenticationService.authenticate, AuthenticationService.lookUp,
    exceptException, ask, Prog.perform, bind, Prog.bind, Prog.tryExcept, Prog.exec, hfind,
    Prog.ofReply, List.nil_append]
  cases hverify : world.reply [⟨.findByUsername username, .ok stored⟩]
      (.verify password (svc.encodedHash stored)) with
  | ok passwordMatches =>
    simp only [Prog.bind, Prog.tryExcept]
    rcases conclude_cases stored passwordMatches with ⟨_, principal, -, -, -, h⟩ | ⟨-, h⟩
    · rw [h]
      rfl
    · rw [h]
      rfl
  | error e =>
    have hexn : e.isException = true := world.exception _ _ _ hverify
    simp only [Prog.tryExcept, hexn, if_true]
    rfl

/-- A call succeeds for the admitted principal, and fails in one way otherwise. -/
theorem observed_cases :
    (∃ principal, Admits world username password principal ∧
      observed svc world username password = some (.ret principal, [password])) ∨
    ((∀ principal, ¬ Admits world username password principal) ∧
      observed svc world username password = some (.raise authenticationFailed, [password])) := by
  cases hfind : world.reply [] (.findByUsername username) with
  | error e =>
    refine .inr ⟨fun principal hadmits => ?_, observed_of_error svc world username password hfind⟩
    obtain ⟨stored, hstored, -⟩ := hadmits
    rw [hfind] at hstored
    cases hstored
  | ok stored =>
    rw [observed_of_found svc world username password hfind]
    cases hverify : world.reply [⟨.findByUsername username, .ok stored⟩]
        (.verify password (svc.encodedHash stored)) with
    | error e =>
      refine .inr ⟨fun principal hadmits => ?_, rfl⟩
      obtain ⟨record, hrecord, -, hmatches⟩ := hadmits
      rw [hfind] at hrecord
      cases hrecord
      rw [AuthenticationService.encodedHash, hmatches] at hverify
      cases hverify
    | ok passwordMatches =>
      rcases conclude_cases stored passwordMatches with
        ⟨record, principal, rfl, hgrants, rfl, h⟩ | ⟨hnone, h⟩
      · refine .inl ⟨principal, ⟨record, hfind, hgrants, hverify⟩, ?_⟩
        simp only [h]
      · refine .inr ⟨fun principal hadmits => ?_, ?_⟩
        · obtain ⟨record, hrecord, hgrants, hmatches⟩ := hadmits
          rw [hfind] at hrecord
          cases hrecord
          rw [AuthenticationService.encodedHash, hmatches] at hverify
          cases hverify
          exact hnone record principal rfl hgrants rfl
        · simp only [h]

theorem Admits.unique {world : Collaborators} {username password : PyStr}
    {p q : AuthenticatedPrincipal} (hp : Admits world username password p)
    (hq : Admits world username password q) : p = q := by
  obtain ⟨stored, hfind, hgrants, -⟩ := hp
  obtain ⟨stored', hfind', hgrants', -⟩ := hq
  rw [hfind] at hfind'
  cases hfind'
  exact hgrants.unique hgrants'

end Observed

/-- However the repository and the hasher behave, a call returns exactly the admitted
principal and raises one fixed error when there is none, and it verifies the given
password once; so any two calls that fail look the same, also across services,
collaborators and usernames. -/
theorem authenticate_exact (svc : AuthenticationService) (world : Collaborators)
    (username password : PyStr) :
    (∃ outcome, observed svc world username password = some (outcome, [password]) ∧
      (∀ principal, outcome = .ret principal ↔ Admits world username password principal) ∧
      ((∀ principal, ¬ Admits world username password principal) →
        outcome = .raise authenticationFailed)) ∧
    ∀ svc' world' username', (∀ principal, ¬ Admits world username password principal) →
      (∀ principal, ¬ Admits world' username' password principal) →
        observed svc world username password = observed svc' world' username' password := by
  constructor
  · rcases observed_cases svc world username password with ⟨principal, hadmits, h⟩ | ⟨hnone, h⟩
    · refine ⟨_, h, fun other => ⟨fun ho => ?_, fun ho => ?_⟩, fun hnone => ?_⟩
      · cases ho
        exact hadmits
      · rw [hadmits.unique ho]
      · exact absurd hadmits (hnone principal)
    · refine ⟨_, h, fun other => ⟨nofun, fun ho => absurd ho (hnone other)⟩, fun _ => rfl⟩
  · intro svc' world' username' hnone hnone'
    have h := (observed_cases svc world username password).resolve_left
      fun ⟨principal, hadmits, _⟩ => hnone principal hadmits
    have h' := (observed_cases svc' world' username' password).resolve_left
      fun ⟨principal, hadmits, _⟩ => hnone' principal hadmits
    rw [h.2, h'.2]

end PamMvp.UserAuthentication
