import PamMvp.PolicyStore
import PamMvp.RowCodecs

/-!
# Rows of targets, accounts, policies and users

Each adapter checks an object before it writes it and a row before it builds an
object from it, and the constructors check once more. The three checks agree: a row
is read exactly when it is the row of an object that the adapter would write.
-/
namespace PamMvp.ConfigurationRows
open PythonText DomainModel SqliteValues SqliteParameters RowCodecs

/-- `int(flag)`. -/
def flagValue (flag : Bool) : PyValue := .int (if flag then 1 else 0)

/-- `try: ... except (TypeError, ValueError): raise malformed`. -/
def catchInvalid {α : Type} (malformed : PyExn) (r : Except PyExn α) : Except PyExn α :=
  r.mapError fun e => if e.cls = .typeError ∨ e.cls = .valueError then malformed else e

section Targets

def serializeTarget (target : Target) : Except PyExn (List PyValue) :=
  if blank target.id || blank target.name || blank target.host ||
      !(1 ≤ target.port && target.port ≤ 65535) ||
      !(py "SHA256:").isPrefixOf target.expectedHostKey.value then
    .error (raised .configStorageError (py "target contains unsupported field values"))
  else .ok [.str target.id, .str target.name, .str target.host, .int target.port,
    .str target.expectedHostKey.value, flagValue target.enabled]

def malformedTarget : PyExn :=
  raised .malformedTargetError (py "target contains invalid stored values")

def deserializeTarget : List PyValue → Except PyExn Target
  | [.str targetId, .str name, .str host, .int port, .str fingerprint, .int enabled] =>
    if enabled ≠ 0 ∧ enabled ≠ 1 then .error malformedTarget
    else catchInvalid malformedTarget do
      let expectedHostKey ← HostKeyFingerprint.new fingerprint
      Target.postInit ⟨targetId, name, host, port, expectedHostKey, enabled = 1⟩
  | _ => .error malformedTarget

end Targets

section Accounts

def serializeAccount (account : PrivilegedAccount) : Except PyExn (List PyValue) :=
  if blank account.id || blank account.targetId || blank account.username ||
      blank account.credentialRef.id then
    .error (raised .configStorageError (py "privileged account contains unsupported field values"))
  else .ok [.str account.id, .str account.targetId, .str account.username,
    .str account.credentialRef.id, flagValue account.enabled]

def malformedAccount : PyExn :=
  raised .malformedPrivilegedAccountError (py "privileged account contains invalid stored values")

def deserializeAccount : List PyValue → Except PyExn PrivilegedAccount
  | [.str accountId, .str targetId, .str username, .str credentialRef, .int enabled] =>
    if enabled ≠ 0 ∧ enabled ≠ 1 then .error malformedAccount
    else catchInvalid malformedAccount do
      let credentialRef ← CredentialRef.new credentialRef
      PrivilegedAccount.postInit ⟨accountId, targetId, username, credentialRef, enabled = 1⟩
  | _ => .error malformedAccount

end Accounts

section Policies

/-- The parameters of a policy, in the order of the columns. -/
def serializePolicy (policy : AccessPolicy) : Except PyExn (List PyValue) :=
  (PolicyStore.serialize policy).map fun texts =>
    [.str texts.id, .str texts.userId, .str texts.targetId, .str texts.action, .str texts.effect]

end Policies

section Users

/-- A user and the encoded hash of the password. -/
structure StoredUserAuthentication where
  user : User
  passwordHash : PyStr
  deriving DecidableEq

def StoredUserAuthentication.postInit (stored : StoredUserAuthentication) :
    Except PyExn StoredUserAuthentication :=
  if stored.passwordHash = [] then
    .error (raised .valueError (py "stored password hash is invalid"))
  else .ok stored

def serializeUser (user : User) : Except PyExn (PyStr × PyStr) :=
  if blank user.id || blank user.username then
    .error (raised .userAuthStorageError (py "PAM user contains unsupported field values"))
  else .ok (user.id, user.username)

/-- The parameters that `create_user` inserts for a user and the hash it computed. -/
def serializeStored (stored : StoredUserAuthentication) : Except PyExn (List PyValue) := do
  let (id, username) ← serializeUser stored.user
  if !(py "$argon2id$").isPrefixOf stored.passwordHash then
    .error (raised .userAuthStorageError (py "PAM user could not be created"))
  else return [.str id, .str username, .str stored.passwordHash, flagValue stored.user.isActive]

def malformedUser : PyExn :=
  raised .malformedUserAuthError (py "PAM user contains invalid stored values")

def deserializeUser : List PyValue → Except PyExn StoredUserAuthentication
  | [.str userId, .str username, .str passwordHash, .int enabled] =>
    if blank userId || blank username || blank passwordHash ||
        !(py "$argon2id$").isPrefixOf passwordHash || (enabled ≠ 0 && enabled ≠ 1) then
      .error malformedUser
    else do
      let user ← catchInvalid malformedUser (User.postInit ⟨userId, username, enabled = 1⟩)
      StoredUserAuthentication.postInit ⟨user, passwordHash⟩
  | _ => .error malformedUser

end Users

section Raises

variable {α β : Type}

/-- The only exception is a `ValueError`. -/
def RaisesValueError (r : Except PyExn α) : Prop := ∀ e, r = .error e → e.cls = .valueError

theorem raisesValueError_pure (a : α) : RaisesValueError (pure a : Except PyExn α) := nofun

theorem raisesValueError_bind {r : Except PyExn α} {f : α → Except PyExn β}
    (hr : RaisesValueError r) (hf : ∀ a, RaisesValueError (f a)) : RaisesValueError (r >>= f) := by
  intro e h
  cases r with
  | ok a => exact hf a e h
  | error e' =>
    cases h
    exact hr e rfl

theorem raisesValueError_requireNonblank (value message : PyStr) :
    RaisesValueError (requireNonblank value message) := by
  intro e h
  unfold requireNonblank at h
  split at h
  · cases h
    rfl
  · cases h

theorem catchInvalid_ok_iff (malformed : PyExn) (r : Except PyExn α) (a : α) :
    catchInvalid malformed r = .ok a ↔ r = .ok a :=
  mapError_ok_iff _ r a

theorem catchInvalid_error {malformed e : PyExn} {r : Except PyExn α} (hr : RaisesValueError r)
    (h : catchInvalid malformed r = .error e) : e = malformed := by
  cases r with
  | ok a => cases h
  | error e' =>
    have hcls := hr e' rfl
    simp only [catchInvalid, Except.mapError, hcls, or_true, if_true, Except.error.injEq] at h
    exact h.symm

theorem hostKeyFingerprint_new_ok_iff (value : PyStr) (key : HostKeyFingerprint) :
    HostKeyFingerprint.new value = .ok key ↔ key.value = value := by
  unfold HostKeyFingerprint.new
  split_ifs with h
  · cases key
    simp [eq_comm]
  · simp only [false_iff]
    intro hvalue
    exact h (hvalue ▸ key.value_prefix)

theorem credentialRef_new_ok_iff (id : PyStr) (ref : CredentialRef) :
    CredentialRef.new id = .ok ref ↔ ref.id = id := by
  unfold CredentialRef.new
  split_ifs with h
  · cases ref
    simp [eq_comm]
  · simp only [false_iff]
    intro hid
    exact h (hid ▸ ref.id_nonblank)

theorem raisesValueError_hostKey (value : PyStr) :
    RaisesValueError (HostKeyFingerprint.new value) := by
  intro e h
  unfold HostKeyFingerprint.new at h
  split_ifs at h
  cases h
  rfl

theorem raisesValueError_credentialRef (id : PyStr) : RaisesValueError (CredentialRef.new id) := by
  intro e h
  unfold CredentialRef.new at h
  split_ifs at h
  cases h
  rfl

/-- A stored flag is the number of a truth value. -/
theorem flagValue_eq_iff (flag : Bool) (i : ℤ) :
    flagValue flag = .int i ↔ (i = 0 ∨ i = 1) ∧ flag = (i = 1 : Bool) := by
  unfold flagValue
  cases flag with
  | true =>
    simp only [if_true, PyValue.int.injEq]
    constructor
    · intro h
      simp [← h]
    · intro h
      simpa [eq_comm] using h.2
  | false =>
    simp only [Bool.false_eq_true, if_false, PyValue.int.injEq]
    constructor
    · intro h
      simp [← h]
    · intro h
      obtain ⟨rfl | rfl, hflag⟩ := h
      · rfl
      · simp at hflag

end Raises

section Images

theorem flag_cases {enabled : ℤ} (h : ¬ (enabled ≠ 0 ∧ enabled ≠ 1)) :
    flagValue (enabled = 1 : Bool) = .int enabled :=
  (flagValue_eq_iff _ _).mpr ⟨by omega, rfl⟩

theorem exists_flag (flag : Bool) :
    ∃ i : ℤ, flagValue flag = .int i ∧ ¬ (i ≠ 0 ∧ i ≠ 1) ∧ (i = 1 : Bool) = flag := by
  obtain ⟨hflag, henabled⟩ := (flagValue_eq_iff flag (if flag then 1 else 0)).mp rfl
  exact ⟨_, rfl, by omega, henabled.symm⟩

theorem flagValue_fits (flag : Bool) : (flagValue flag).fits = true := by
  cases flag <;> decide

/-- A row is read as the target that is written as this row. -/
theorem targetImage (row : List PyValue) (target : Target) :
    deserializeTarget row = .ok target ↔ serializeTarget target = .ok row := by
  constructor
  · intro h
    unfold deserializeTarget at h
    split at h
    · split_ifs at h with hflag
      rw [catchInvalid_ok_iff] at h
      simp only [Target.postInit, except_bind_ok_iff, requireNonblank_ok_iff, exists_const,
        hostKeyFingerprint_new_ok_iff] at h
      obtain ⟨key, rfl, hid, hname, hhost, h⟩ := h
      split_ifs at h with hport
      cases h
      simp [serializeTarget, hid, hname, hhost, hport, key.value_prefix, flag_cases hflag]
    · cases h
  · intro h
    unfold serializeTarget at h
    split_ifs at h with hcheck
    cases h
    simp only [Bool.or_eq_true, Bool.not_eq_true', Bool.and_eq_false_iff, decide_eq_false_iff_not,
      not_or, Bool.not_eq_true, not_le, not_lt] at hcheck
    obtain ⟨⟨⟨⟨hid, hname⟩, hhost⟩, hport⟩, -⟩ := hcheck
    have hrange : 1 ≤ target.port ∧ target.port ≤ 65535 := by omega
    obtain ⟨i, hi, hallowed, henabled⟩ := exists_flag target.enabled
    simp only [hi, deserializeTarget, hallowed, if_false, catchInvalid_ok_iff, Target.postInit,
      except_bind_ok_iff, requireNonblank_ok_iff, exists_const, hostKeyFingerprint_new_ok_iff]
    refine ⟨target.expectedHostKey, rfl, hid, hname, hhost, ?_⟩
    rw [if_pos hrange, henabled]
    rfl

theorem targetRefusal (row : List PyValue) (e : PyExn) (h : deserializeTarget row = .error e) :
    e = malformedTarget := by
  unfold deserializeTarget at h
  split at h
  · split_ifs at h
    · cases h
      rfl
    · refine catchInvalid_error (raisesValueError_bind (raisesValueError_hostKey _) fun key => ?_) h
      refine raisesValueError_bind (raisesValueError_requireNonblank _ _) fun _ => ?_
      refine raisesValueError_bind (raisesValueError_requireNonblank _ _) fun _ => ?_
      refine raisesValueError_bind (raisesValueError_requireNonblank _ _) fun _ => ?_
      intro e' h'
      split_ifs at h'
      · cases h'
      · rw [← Except.error.inj h']
        rfl
  · cases h
    rfl

theorem targetFits (target : Target) (row : List PyValue) (h : serializeTarget target = .ok row) :
    ∀ v ∈ row, v.fits = true := by
  unfold serializeTarget at h
  split_ifs at h with hcheck
  cases h
  have hport : (PyValue.int target.port).fits = true := by
    simp only [Bool.or_eq_true, Bool.not_eq_true', Bool.and_eq_false_iff, decide_eq_false_iff_not,
      not_or] at hcheck
    simp only [PyValue.fits, isInt64, Bool.and_eq_true, decide_eq_true_eq]
    omega
  simp [flagValue_fits, hport]

/-- A row is read as the account that is written as this row. -/
theorem accountImage (row : List PyValue) (account : PrivilegedAccount) :
    deserializeAccount row = .ok account ↔ serializeAccount account = .ok row := by
  constructor
  · intro h
    unfold deserializeAccount at h
    split at h
    · split_ifs at h with hflag
      rw [catchInvalid_ok_iff] at h
      simp only [PrivilegedAccount.postInit, except_bind_ok_iff, requireNonblank_ok_iff,
        exists_const, credentialRef_new_ok_iff] at h
      obtain ⟨ref, rfl, hid, htarget, hname, h⟩ := h
      cases h
      simp [serializeAccount, hid, htarget, hname, ref.id_nonblank, flag_cases hflag]
    · cases h
  · intro h
    unfold serializeAccount at h
    split_ifs at h with hcheck
    cases h
    simp only [Bool.or_eq_true, not_or, Bool.not_eq_true] at hcheck
    obtain ⟨⟨⟨hid, htarget⟩, hname⟩, -⟩ := hcheck
    obtain ⟨i, hi, hallowed, henabled⟩ := exists_flag account.enabled
    simp only [hi, deserializeAccount, hallowed, if_false, catchInvalid_ok_iff,
      PrivilegedAccount.postInit, except_bind_ok_iff, requireNonblank_ok_iff, exists_const,
      credentialRef_new_ok_iff]
    refine ⟨account.credentialRef, rfl, hid, htarget, hname, ?_⟩
    rw [henabled]
    rfl

theorem accountRefusal (row : List PyValue) (e : PyExn) (h : deserializeAccount row = .error e) :
    e = malformedAccount := by
  unfold deserializeAccount at h
  split at h
  · split_ifs at h
    · cases h
      rfl
    · refine catchInvalid_error
        (raisesValueError_bind (raisesValueError_credentialRef _) fun ref => ?_) h
      refine raisesValueError_bind (raisesValueError_requireNonblank _ _) fun _ => ?_
      refine raisesValueError_bind (raisesValueError_requireNonblank _ _) fun _ => ?_
      refine raisesValueError_bind (raisesValueError_requireNonblank _ _) fun _ => ?_
      exact raisesValueError_pure _
  · cases h
    rfl

theorem accountFits (account : PrivilegedAccount) (row : List PyValue)
    (h : serializeAccount account = .ok row) : ∀ v ∈ row, v.fits = true := by
  unfold serializeAccount at h
  split_ifs at h
  cases h
  simp [flagValue_fits]

/-- A row is read as the policy that is written as this row. -/
theorem policyImage (row : List PyValue) (policy : AccessPolicy) :
    PolicyStore.deserialize row = .ok policy ↔ serializePolicy policy = .ok row := by
  rw [PolicyStore.deserialize_ok_iff]
  constructor
  · intro h
    obtain ⟨rfl, hid, huser, htarget⟩ := h
    have hserialized := (PolicyStore.serialize_ok_iff policy _).mpr ⟨hid, huser, htarget, rfl⟩
    rw [serializePolicy, hserialized]
    rfl
  · intro h
    unfold serializePolicy at h
    cases hserialized : PolicyStore.serialize policy with
    | error e =>
      rw [hserialized] at h
      cases h
    | ok texts =>
      obtain ⟨hid, huser, htarget, rfl⟩ := (PolicyStore.serialize_ok_iff _ _).mp hserialized
      rw [hserialized] at h
      cases h
      exact ⟨rfl, hid, huser, htarget⟩

theorem policyRefusal (row : List PyValue) (e : PyExn)
    (h : PolicyStore.deserialize row = .error e) :
    e = PolicyStore.malformedPolicy := by
  unfold PolicyStore.deserialize at h
  split at h
  · split at h
    · rename_i action effect haction heffect
      generalize AccessPolicy.postInit _ = r at h
      cases r with
      | ok policy => cases h
      | error e' =>
        cases h
        rfl
    · cases h
      rfl
  · cases h
    rfl

theorem policyFits (policy : AccessPolicy) (row : List PyValue)
    (h : serializePolicy policy = .ok row) : ∀ v ∈ row, v.fits = true := by
  unfold serializePolicy PolicyStore.serialize at h
  split_ifs at h
  · cases h
  · cases h
    simp

/-- An encoded hash is neither empty nor blank. -/
theorem prefix_nonblank {passwordHash : PyStr}
    (h : (py "$argon2id$").isPrefixOf passwordHash = true) :
    passwordHash ≠ [] ∧ blank passwordHash = false := by
  obtain ⟨rest, rfl⟩ := List.isPrefixOf_iff_prefix.mp h
  have hblank : blank (py "$argon2id$") = false := by decide
  refine ⟨by simp [py], ?_⟩
  rw [blank, List.all_append, ← blank, hblank, Bool.false_and]

/-- A row is read as the record that is written as this row. -/
theorem userImage (row : List PyValue) (stored : StoredUserAuthentication) :
    deserializeUser row = .ok stored ↔ serializeStored stored = .ok row := by
  constructor
  · intro h
    unfold deserializeUser at h
    split at h
    · split_ifs at h with hcheck
      simp only [Bool.or_eq_true, Bool.not_eq_true', not_or, Bool.not_eq_true,
        Bool.not_eq_false, Bool.and_eq_false_iff] at hcheck
      obtain ⟨⟨⟨⟨hid, hname⟩, -⟩, hprefix⟩, hflag⟩ := hcheck
      simp only [User.postInit, except_bind_ok_iff, catchInvalid_ok_iff, requireNonblank_ok_iff,
        exists_const, StoredUserAuthentication.postInit] at h
      obtain ⟨user, ⟨-, -, huser⟩, h⟩ := h
      cases huser
      rw [if_neg (prefix_nonblank hprefix).1] at h
      cases h
      simp [serializeStored, serializeUser, hid, hname, hprefix]
      exact (flagValue_eq_iff _ _).mpr ⟨by simpa using hflag, rfl⟩
    · cases h
  · intro h
    simp only [serializeStored, serializeUser, except_bind_ok_iff] at h
    obtain ⟨⟨id, username⟩, huser, h⟩ := h
    split_ifs at huser with hblank
    cases huser
    dsimp only at h
    split_ifs at h with hprefix
    cases h
    simp only [Bool.not_eq_true', Bool.not_eq_false] at hprefix
    simp only [Bool.or_eq_true, not_or, Bool.not_eq_true] at hblank
    obtain ⟨hid, hname⟩ := hblank
    obtain ⟨i, hi, hallowed, hactive⟩ := exists_flag stored.user.isActive
    have hflag : ((i ≠ 0 : Bool) && (i ≠ 1 : Bool)) = false := by
      simp only [Bool.and_eq_false_iff, decide_eq_false_iff_not]
      omega
    simp only [hi, deserializeUser, hid, hname, (prefix_nonblank hprefix).2, hprefix, hflag,
      Bool.not_true, Bool.or_self, Bool.false_eq_true, if_false, except_bind_ok_iff,
      catchInvalid_ok_iff, User.postInit, requireNonblank_ok_iff, exists_const,
      StoredUserAuthentication.postInit, (prefix_nonblank hprefix).1, hactive]
    exact ⟨stored.user, ⟨trivial, trivial, rfl⟩, rfl⟩

theorem userRefusal (row : List PyValue) (e : PyExn) (h : deserializeUser row = .error e) :
    e = malformedUser := by
  unfold deserializeUser at h
  split at h
  · split_ifs at h with hcheck
    · cases h
      rfl
    · simp only [Bool.or_eq_true, Bool.not_eq_true', not_or, Bool.not_eq_false] at hcheck
      obtain ⟨⟨-, hprefix⟩, -⟩ := hcheck
      generalize hr : catchInvalid malformedUser (User.postInit _) = r at h
      cases r with
      | ok user =>
        simp only [bind, Except.bind, StoredUserAuthentication.postInit,
          (prefix_nonblank hprefix).1, if_false] at h
        cases h
      | error e' =>
        cases h
        refine catchInvalid_error (raisesValueError_bind ?_ fun _ => raisesValueError_bind ?_ ?_) hr
        · exact raisesValueError_requireNonblank _ _
        · exact raisesValueError_requireNonblank _ _
        · exact fun _ => raisesValueError_pure _
  · cases h
    rfl

theorem userFits (stored : StoredUserAuthentication) (row : List PyValue)
    (h : serializeStored stored = .ok row) : ∀ v ∈ row, v.fits = true := by
  simp only [serializeStored, except_bind_ok_iff] at h
  obtain ⟨⟨id, username⟩, -, h⟩ := h
  split_ifs at h
  cases h
  simp [flagValue_fits]

theorem target_exact : DecodesExactly serializeTarget deserializeTarget malformedTarget :=
  .of_image targetImage targetRefusal targetFits

theorem account_exact : DecodesExactly serializeAccount deserializeAccount malformedAccount :=
  .of_image accountImage accountRefusal accountFits

/-- Each of the four adapters reads a row exactly when it is the row that the adapter
writes for an object it accepts, and the object is the one written; any other row is
refused as malformed. -/
theorem adapters_decode_exactly :
    DecodesExactly serializeTarget deserializeTarget malformedTarget ∧
    DecodesExactly serializeAccount deserializeAccount malformedAccount ∧
    DecodesExactly serializePolicy PolicyStore.deserialize PolicyStore.malformedPolicy ∧
    DecodesExactly serializeStored deserializeUser malformedUser :=
  ⟨target_exact, account_exact, .of_image policyImage policyRefusal policyFits,
    .of_image userImage userRefusal userFits⟩

example : deserializeTarget [.str (py "t-1"), .str (py "lab"), .str (py "db"), .int 22,
    .str (py "SHA256:abc"), .int 2] = .error malformedTarget := by decide +kernel

end Images

end PamMvp.ConfigurationRows
