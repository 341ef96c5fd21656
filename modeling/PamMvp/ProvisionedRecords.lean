import PamMvp.ApplicationStartup

/-!
# What the application finds in a provisioned runtime

The application reads with its own statements what the provisioning tool wrote with others:
the user by the name, the policy, the target and the account by the ids of a request, and the
password of the account by its reference.
-/
namespace PamMvp.ProvisionedRecords
open InteractionPrograms SharedPrograms PythonText DomainModel SqliteValues SqliteParameters
  TableConstraints ConfigurationDatabase AdapterSchemas EnforcedUniqueness CreatedTables
  CredentialVault UserAuthentication RuntimeConfiguration RuntimeFiles LabProvisioning WiredAccess

section Users

def userNotLoaded : PyExn := raised .userAuthStorageError (py "PAM user could not be loaded")

/-- `SQLiteUserAuthRepository.find_by_username`. -/
def findByUsername (db : Database) (username : PyStr) :
    Except PyExn (Option ConfigurationRows.StoredUserAuthentication) := do
  let username ← bindParameter (.str username)
  match db.table? UserAuth.tableName with
  | none => .error userNotLoaded
  | some t =>
    let names := t.schema.columnNames
    match t.rows.find? fun row => valueOf names row (py "username") = username with
    | none => return none
    | some row =>
      let values ← (fetchTuple (userColumns.map (valueOf names row))).mapError fun _ =>
        userNotLoaded
      return some (← ConfigurationRows.deserializeUser values)

/-- The record as the authentication service sees it. -/
def record (stored : ConfigurationRows.StoredUserAuthentication) : StoredUserAuthentication :=
  ⟨⟨.str stored.user.id, .str stored.user.username, .bool stored.user.isActive⟩,
    stored.passwordHash⟩

theorem findByUsername_exception {db : Database} {username : PyStr} {e : PyExn}
    (h : findByUsername db username = .error e) : e.isException = true := by
  simp only [findByUsername, bindParameter_str] at h
  split_ifs at h
  · simp only [bind, Except.bind] at h
    split at h
    · cases h
      rfl
    · split at h
      · cases h
      · cases hvalues : fetchTuple (userColumns.map (valueOf _ _)) with
        | error e' =>
          rw [hvalues] at h
          cases h
          rfl
        | ok values =>
          rw [hvalues] at h
          simp only [Except.mapError] at h
          cases huser : ConfigurationRows.deserializeUser values with
          | error e' =>
            rw [huser] at h
            cases h
            rw [ConfigurationRows.userRefusal values e huser]
            rfl
          | ok stored =>
            rw [huser] at h
            cases h
  · cases h
    rfl

theorem verifyPassword_exception {argon2 : Argon2} {password encodedHash : PyStr} {e : PyExn}
    (h : argon2.verifyPassword password encodedHash = .error e) : e.isException = true := by
  unfold Argon2.verifyPassword at h
  cases hverify : argon2.verify encodedHash password with
  | ok verified =>
    rw [hverify] at h
    cases h
  | error e' =>
    rw [hverify] at h
    simp only at h
    split_ifs at h
    cases h
    exact argon2.verify_exception _ _ _ hverify

/-- What the repository and the hasher answer. -/
def answer (env : Environment) (db : Database) : (c : AuthCall) → Reply authSignature c
  | .findByUsername username => (findByUsername db username).map (Option.map record)
  | .verify password encodedHash => env.argon2.verifyPassword password encodedHash

theorem answer_exception {env : Environment} {db : Database} {c : AuthCall} {e : PyExn}
    (h : answer env db c = .error e) : e.isException = true := by
  cases c with
  | findByUsername username =>
    rw [answer] at h
    cases hfound : findByUsername db username with
    | error e' =>
      rw [hfound] at h
      cases h
      exact findByUsername_exception hfound
    | ok found =>
      rw [hfound] at h
      cases h
  | verify password encodedHash => exact verifyPassword_exception h

/-- The collaborators that `build_application` hands to the authentication service. -/
def collaborators (env : Environment) (db : Database) : Collaborators where
  reply _ c := answer env db c
  exception _ _ _ h := answer_exception h

variable {env : Environment} {user : User} {password : PyStr} {file : SqliteFile}

theorem serializeStored_row {stored : ConfigurationRows.StoredUserAuthentication}
    {row : List PyValue} (h : ConfigurationRows.serializeStored stored = .ok row) :
    row = userParameters stored.user stored.passwordHash := by
  obtain ⟨texts, htexts, h⟩ := (except_bind_ok_iff _ _ _).mp h
  unfold ConfigurationRows.serializeUser at htexts
  split_ifs at htexts
  cases htexts
  split_ifs at h
  cases h
  rfl

/-- The user who was created is found under the name, with the hash of the password. -/
theorem findByUsername_created (h : HoldsUser env user password file) :
    ∃ salt encodedHash, env.argon2.hash salt password = .ok encodedHash ∧
      findByUsername file.database user.username = .ok (some ⟨user, encodedHash⟩) := by
  obtain ⟨salt, encodedHash, row, hhash, hrow, hvalues, hholding⟩ := h
  refine ⟨salt, encodedHash, hhash, ?_⟩
  have hread : ConfigurationRows.deserializeUser row = .ok ⟨user, encodedHash⟩ :=
    (ConfigurationRows.userImage row _).mpr hrow
  obtain rfl := serializeStored_row hrow
  have hname : encodable user.username = true :=
    (hvalues (.str user.username) (by simp [userParameters])).2
  have htable : file.database.table? UserAuth.tableName = some ⟨UserAuth.created,
      [(userParameters user encodedHash).map PyValue.stored]⟩ := hholding.table
  have hnames : UserAuth.created.columnNames = userColumns := created_columnNames .userAuth
  have hfetch : fetchTuple ((userParameters user encodedHash).map PyValue.stored) =
      .ok (userParameters user encodedHash) :=
    (fetchTuple_ok_iff _ _).mpr ⟨fun v hv => (hvalues v hv).2, rfl⟩
  have hvalue : valueOf userColumns ((userParameters user encodedHash).map PyValue.stored)
      (py "username") = .text (utf8 user.username) := rfl
  have hcolumns : userColumns.map (valueOf userColumns
      ((userParameters user encodedHash).map PyValue.stored)) =
        (userParameters user encodedHash).map PyValue.stored := rfl
  simp only [findByUsername, bindParameter_str, hname, if_true, bind, Except.bind, htable, hnames,
    List.find?_cons, hvalue, decide_true, hcolumns, hfetch, Except.mapError, hread]
  rfl

/-- The user who was created can authenticate with the password. -/
theorem authenticate_created (hreliable : env.Reliable) (h : HoldsUser env user password file)
    (hactive : user.isActive = true) (hid : blank user.id = false)
    (hname : blank user.username = false) (svc : AuthenticationService) :
    observed svc (collaborators env file.database) user.username password =
      some (.ret ⟨user.id, user.username, hid, hname⟩, [password]) := by
  obtain ⟨salt, encodedHash, hhash, hfound⟩ := findByUsername_created h
  have hadmits : Admits (collaborators env file.database) user.username password
      ⟨user.id, user.username, hid, hname⟩ := by
    refine ⟨record ⟨user, encodedHash⟩, ?_, ⟨?_, rfl, rfl⟩, ?_⟩
    · simp [collaborators, answer, hfound, Except.map]
    · simp [record, hactive]
    · simp [collaborators, answer, record, Argon2.verifyPassword, hreliable.verifies _ _ _ hhash]
  rcases observed_cases svc (collaborators env file.database) user.username password with
    ⟨principal, hprincipal, hobserved⟩ | ⟨hnone, -⟩
  · rw [hobserved, hprincipal.unique hadmits]
  · exact absurd hadmits (hnone _)

end Users

section Secrets

/-- The rows of `vault_credentials`. -/
def vaultRows (db : Database) : List VaultRow :=
  match db.table? Vault.tableName with
  | none => []
  | some t => t.rows.map fun row =>
    let names := t.schema.columnNames
    ⟨valueOf names row (py "id"), valueOf names row (py "encryption_version"),
      valueOf names row (py "nonce"), valueOf names row (py "ciphertext")⟩

variable {env : Environment} {key plaintext : Bytes} {ref : CredentialRef} {file : SqliteFile}

theorem decrypt_encrypted (hreliable : env.Reliable) {nonce : Bytes} {secret : EncryptedSecret}
    (h : encrypt (env.gcm key) nonce plaintext = .ok secret) :
    decrypt (env.gcm key) secret = .ok plaintext := by
  obtain ⟨ciphertext, hencrypt, hnew⟩ := (except_bind_ok_iff _ _ _).mp h
  obtain ⟨hversion, rfl, rfl⟩ := (encryptedSecret_new_ok_iff _ _ _ _).mp hnew
  rw [decrypt, if_neg (not_not.mpr hversion), mapError_ok_iff]
  exact hreliable.decrypts _ _ _ _ hencrypt

/-- The credential that was stored is the only one that is resolved, to its plaintext. -/
theorem resolve_stored_only (hreliable : env.Reliable) (h : HoldsSecret env key ref plaintext file)
    (other : CredentialRef) (hother : encodable other.id = true) :
    resolve (env.gcm key) true (vaultRows file.database) other =
      match plaintextOf [(ref.id, plaintext)] other.id with
      | none => .error (vaultError "credential does not exist")
      | some plaintext => .ok ⟨plaintext⟩ := by
  obtain ⟨nonce, secret, hencrypt, hvalues, hholding⟩ := h
  have hid : encodable ref.id = true := (hvalues (.str ref.id) (by simp [vaultParameters])).2
  have htable : file.database.table? Vault.tableName = some ⟨Vault.created,
      [(vaultParameters ref secret).map PyValue.stored]⟩ := hholding.table
  have hnames : Vault.created.columnNames = vaultColumns := created_columnNames .vault
  have hrows : vaultRows file.database = [⟨.text (utf8 ref.id), .integer secret.version,
      .blob secret.nonce, .blob secret.ciphertext⟩] := by
    simp only [vaultRows, htable, hnames]
    rfl
  rw [resolve_encodable hother, hrows, rowFor]
  by_cases hsame : ref.id = other.id
  · have hread : readRow ⟨.text (utf8 ref.id), .integer secret.version, .blob secret.nonce,
        .blob secret.ciphertext⟩ = .ok secret := (readRow_ok_iff secret).mpr ⟨rfl, rfl, rfl⟩
    simp only [hsame, List.find?_cons, decide_true, plaintextOf, Option.map_some, bind, Except.bind]
    rw [hsame] at hread
    rw [hread]
    simp only [decrypt_encrypted hreliable hencrypt, catchException, Except.mapError]
    rfl
  · have hbytes : utf8 ref.id ≠ utf8 other.id :=
      fun hbytes => hsame (utf8_injective hid hother hbytes)
    simp [hbytes, plaintextOf, hsame]

end Secrets

section Records

variable {config : LabProvisioningConfig} {records : LabRecords}

/-- The records say what the configuration says. -/
structure Follows (config : LabProvisioningConfig) (records : LabRecords) : Prop where
  user : records.user = ⟨config.userId, config.username, true⟩
  userId : blank config.userId = false
  username : blank config.username = false
  targetId : records.target.id = config.targetId
  host : records.target.host = config.targetHost
  port : records.target.port = config.targetPort
  pin : records.target.expectedHostKey.value = config.hostKeyFingerprint
  targetEnabled : records.target.enabled = true
  accountTarget : records.account.targetId = config.targetId
  accountUsername : records.account.username = config.accountUsername
  accountEnabled : records.account.enabled = true
  policy : records.policy = ⟨config.policyId, config.userId, config.targetId,
    .openPrivilegedSession, .allow⟩

theorem buildRecords_follows (h : buildRecords config = .ok records) : Follows config records := by
  rw [buildRecords, ConfigurationRows.catchInvalid_ok_iff] at h
  simp only [except_bind_ok_iff, HostKeyPins.parseOpensshSha256Fingerprint, mapError_ok_iff] at h
  obtain ⟨fingerprint, hpin, ref, -, user, huser, target, htarget, account, haccount, policy,
    hpolicy, hrecords⟩ := h
  have hpin := (HostKeyPins.parseFingerprint_denotes hpin).1
  simp only [User.postInit, Target.postInit, PrivilegedAccount.postInit, AccessPolicy.postInit,
    except_bind_ok_iff, requireNonblank_ok_iff, exists_const] at huser htarget haccount hpolicy
  obtain ⟨hid, hname, huser⟩ := huser
  obtain ⟨-, -, -, htarget⟩ := htarget
  obtain ⟨-, -, -, haccount⟩ := haccount
  obtain ⟨-, -, -, hpolicy⟩ := hpolicy
  split_ifs at htarget
  cases huser
  cases htarget
  cases haccount
  cases hpolicy
  cases hrecords
  exact ⟨rfl, hid, hname, rfl, rfl, rfl, hpin, rfl, rfl, rfl, rfl, rfl⟩

/-- The objects that were stored. -/
def storesOf (records : LabRecords) : Stores :=
  ⟨[records.target], [records.account], [records.policy]⟩

/-- The one credential. -/
def credentialsOf (records : LabRecords) (plaintext : Bytes) : List (PyStr × Bytes) :=
  [(records.account.credentialRef.id, plaintext)]

/-- The databases of the access service, as they are shown. -/
def runtimeOf (env : Environment) (vaultKey : Bytes) (shown : Role → SqliteFile) : Runtime :=
  ⟨(shown .config).config, env.gcm vaultKey, vaultRows (shown .vault).database⟩

theorem expected_isSome {ρ : Type} {columns : List TableSchemas.Column}
    {table : Option (TableSchemas.Table ρ)} (h : Expected columns table) : table.isSome = true := by
  obtain ⟨t, rfl, -⟩ := h
  rfl

theorem holds_provisioned {env : Environment} (hreliable : env.Reliable) {vaultKey : Bytes}
    {pamPassword targetPassword : PyStr} {shown : Role → SqliteFile}
    (h : Provisioned env records vaultKey pamPassword targetPassword shown) :
    ∃ plaintext, encodeUtf8 targetPassword = some plaintext ∧
      Holds (runtimeOf env vaultKey shown) (storesOf records)
        (credentialsOf records plaintext) := by
  obtain ⟨plaintext, hencode, hsecret⟩ := h.credential
  refine ⟨plaintext, hencode, h.config, expected_isSome h.complete.targets,
    expected_isSome h.complete.accounts, expected_isSome h.complete.policies, fun t => ?_,
    resolve_stored_only hreliable hsecret⟩
  exact (List.length_filter_le _ _).trans (by simp [storesOf])

variable {plaintext : Bytes} {request : AccessRequest} {principal : AuthenticatedPrincipal}

/-- The policy allows its user the session, and nobody anything else. -/
theorem policyDecision_stored (h : Follows config records) (request : AccessRequest) :
    policyDecision (storesOf records) request =
      if request.userId = config.userId ∧ request.targetId = config.targetId then
        ⟨.allow, config.policyId⟩ else ⟨.deny, py "no_matching_policy"⟩ := by
  have haction : request.action = .openPrivilegedSession := by
    cases request.action
    rfl
  have hmatching : PolicyStore.matching (storesOf records).policies request =
      if request.userId = config.userId ∧ request.targetId = config.targetId then [records.policy]
      else [] := by
    have hfor : PolicyStore.IsFor request.userId request.targetId request.action records.policy ↔
        request.userId = config.userId ∧ request.targetId = config.targetId := by
      rw [h.policy, haction]
      simp [PolicyStore.IsFor, eq_comm]
    simp only [PolicyStore.matching, storesOf, List.filter_cons, List.filter_nil, hfor,
      decide_eq_true_eq]
  rw [policyDecision, hmatching]
  split_ifs
  · rw [orderBy_of_pairwise (List.pairwise_singleton _ _), h.policy]
    rfl
  · rw [orderBy_of_pairwise List.Pairwise.nil]
    rfl

/-- A request of the provisioned user for the provisioned target is admitted. -/
theorem finding_configured (h : Follows config records)
    (hprincipal : principal.userId = request.userId) (huser : request.userId = config.userId)
    (htarget : request.targetId = config.targetId) :
    finding (storesOf records) (credentialsOf records plaintext) request principal =
      .admitted records.target records.account ⟨plaintext⟩ := by
  have hallow := policyDecision_stored h request
  rw [if_pos ⟨huser, htarget⟩] at hallow
  have htargets : targetFinding (storesOf records) (credentialsOf records plaintext) request =
      .admitted records.target records.account ⟨plaintext⟩ := by
    simp [targetFinding, storesOf, h.targetId, htarget, h.targetEnabled, accountFinding,
      h.accountTarget, h.accountEnabled, credentialsOf, plaintextOf]
  simp [finding, hprincipal, requestFinding, hallow, htargets]

/-- Any other request is refused. -/
theorem finding_other (h : Follows config records) (plaintext : Bytes)
    (hother : principal.userId ≠ config.userId ∨ request.targetId ≠ config.targetId) :
    ∃ reason, finding (storesOf records) (credentialsOf records plaintext) request principal =
      .refused reason := by
  by_cases hprincipal : principal.userId = request.userId
  · have hnot : ¬ (request.userId = config.userId ∧ request.targetId = config.targetId) := by
      intro hboth
      rcases hother with huser | htarget
      · exact huser (hprincipal.trans hboth.1)
      · exact htarget hboth.2
    have hdeny := policyDecision_stored h request
    rw [if_neg hnot] at hdeny
    exact ⟨py "no_matching_policy", by simp [finding, hprincipal, requestFinding, hdeny]⟩
  · exact ⟨py "authenticated_identity_mismatch", by simp [finding, hprincipal]⟩

end Records

end PamMvp.ProvisionedRecords
