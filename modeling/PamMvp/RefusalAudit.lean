import PamMvp.WiredAccess

/-!
# Audited refusals in the production composition

The access service expects `None` from a vault that lacks a credential, and the vault
raises instead. Every other refusal is returned as a denial with one event; this one
is neither returned nor recorded.
-/
namespace PamMvp.RefusalAudit
open InteractionPrograms PythonText DateTimes DomainModel SqliteValues SqliteParameters
  SessionLifecycle PamCalls PolicyStore ConfigurationDatabase CredentialVault AccessHandling
  AccessAuditTrail WiredAccess

/-- The reason that a finding calls for; an admitted request is not refused. -/
def refusalReason : Finding → Option PyStr
  | .refused reason => some reason
  | .credentialMissing => some (py "credential_not_found")
  | .admitted _ _ _ => none

/-- The broker was called, or the request was denied for the reason of the finding, with
one event. -/
def Audited (f : Finding) (tr : List PamEvent) (o : PamOutcome AccessResult) : Prop :=
  (∃ target account credential r, ⟨.openSession target account credential, r⟩ ∈ tr) ∨
    ∃ reason, refusalReason f = some reason ∧ o = .ret ⟨⟨.deny, reason⟩, none⟩ ∧ Denial reason tr

section Condition

variable (s : Stores) (credentials : List (PyStr × Bytes)) (request : AccessRequest)

/-- The policies allow, target and account are there and enabled, and nothing is stored
under the credential reference of the account. -/
structure LacksCredential (target : Target) (account : PrivilegedAccount) : Prop where
  allowed : (policyDecision s request).effect = .allow
  targetFound : s.targets.find? (·.id = request.targetId) = some target
  targetEnabled : target.enabled = true
  accountFound : s.accounts.find? (·.targetId = target.id) = some account
  accountEnabled : account.enabled = true
  credential : plaintextOf credentials account.credentialRef.id = none

variable {s credentials request}

theorem accountFinding_missing_iff (target : Target) :
    accountFinding s credentials target = .credentialMissing ↔
      ∃ account, s.accounts.find? (·.targetId = target.id) = some account ∧
        account.enabled = true ∧ plaintextOf credentials account.credentialRef.id = none := by
  unfold accountFinding
  cases s.accounts.find? (·.targetId = target.id) with
  | none => simp
  | some account =>
    cases henabled : account.enabled with
    | false => simp [henabled]
    | true =>
      cases hstored : plaintextOf credentials account.credentialRef.id <;> simp [henabled, hstored]

theorem requestFinding_missing_iff : requestFinding s credentials request = .credentialMissing ↔
    ∃ target account, LacksCredential s credentials request target account := by
  constructor
  · intro h
    unfold requestFinding targetFinding at h
    split_ifs at h with hallow
    split at h
    · cases h
    · rename_i target htarget
      split_ifs at h with henabled
      obtain ⟨account, haccount, haccountEnabled, hcredential⟩ :=
        (accountFinding_missing_iff _).mp h
      exact ⟨target, account, not_not.mp hallow, htarget, by simpa using henabled, haccount,
        haccountEnabled, hcredential⟩
  · intro h
    obtain ⟨target, account, h⟩ := h
    have haccount := (accountFinding_missing_iff target).mpr
      ⟨account, h.accountFound, h.accountEnabled, h.credential⟩
    simp [requestFinding, targetFinding, h.allowed, h.targetFound, h.targetEnabled, haccount]

end Condition

section Runs

variable {tr : List PamEvent} {o : PamOutcome AccessResult} {f : Finding}

/-- A finding is audited unless it is a missing credential. -/
theorem Ends.audited_iff (h : Ends tr o f) : Audited f tr o ↔ f ≠ .credentialMissing := by
  cases f with
  | refused reason =>
    obtain ⟨ho, hdenial, -⟩ := h
    exact ⟨fun _ => by simp, fun _ => .inr ⟨reason, rfl, ho, hdenial⟩⟩
  | credentialMissing =>
    obtain ⟨ho, -, hquiet⟩ := h
    constructor
    · intro haudited
      rcases haudited with ⟨target, account, credential, r, hr⟩ | ⟨reason, -, hret, -⟩
      · exact absurd hr (hquiet target account credential r)
      · rw [ho] at hret
        cases hret
    · exact fun hne => absurd rfl hne
  | admitted target account credential =>
    obtain ⟨r, hr⟩ := h
    exact ⟨fun _ => by simp, fun _ => .inl ⟨target, account, credential, r, hr⟩⟩

/-- All three repositories were opened on `config.db`. -/
structure Opened (db : ConfigDb) : Prop where
  targets : db.targets.isSome = true
  accounts : db.accounts.isSome = true
  policies : db.policies.isSome = true

/-- The runtime that stores left behind. -/
def runtimeOf (ops : List Operation) (gcm : AesGcm) (calls : List StoreCall) : Runtime :=
  ⟨(ConfigurationDatabase.after ops).1, gcm, (CredentialVault.after gcm calls).rows⟩

theorem runtimeOf_holds {ops : List Operation} {gcm : AesGcm} {calls : List StoreCall}
    (hopened : Opened (ConfigurationDatabase.after ops).1)
    (hsingle : ∀ t,
      ((ConfigurationDatabase.after ops).2.accounts.filter (·.targetId = t)).length ≤ 1)
    (hgenuine : Genuine gcm (CredentialVault.after gcm calls).log) :
    Holds (runtimeOf ops gcm calls) (ConfigurationDatabase.after ops).2
      (CredentialVault.after gcm calls).stored where
  config := after_represents ops
  targets := hopened.targets
  accounts := hopened.accounts
  policies := hopened.policies
  single := hsingle
  vault _ href := resolve_stored hgenuine href

/-- Over every content of the two databases that stores can leave, a request is audited
exactly when it is refused for its identity, or its ids have a UTF-8 encoding and its
account does not lack its credential. -/
theorem handle_audited_iff (d : ℤ) (hd : 0 < d) (terminal : TerminalIO) (ops : List Operation)
    (gcm : AesGcm) (calls : List StoreCall) (hopened : Opened (ConfigurationDatabase.after ops).1)
    (hsingle : ∀ t,
      ((ConfigurationDatabase.after ops).2.accounts.filter (·.targetId = t)).length ≤ 1)
    (hgenuine : Genuine gcm (CredentialVault.after gcm calls).log)
    (principal : AuthenticatedPrincipal) (request : AccessRequest)
    (hrequest : request.postInit = .ok request) (m : Memory) {tr : List PamEvent}
    {o : PamOutcome AccessResult} {m' : Memory}
    (hrun : ((portService d hd).handle principal request terminal).Run m tr o m')
    (hwired : ∀ ev ∈ tr, Wired (runtimeOf ops gcm calls) ev) :
    Audited (finding (ConfigurationDatabase.after ops).2 (CredentialVault.after gcm calls).stored
      request principal) tr o ↔
    principal.userId ≠ request.userId ∨
      (encodable request.userId = true ∧ encodable request.targetId = true ∧
        ¬ ∃ target account, LacksCredential (ConfigurationDatabase.after ops).2
          (CredentialVault.after gcm calls).stored request target account) := by
  have hrt := runtimeOf_holds hopened hsingle hgenuine
  by_cases hsame : principal.userId = request.userId
  · simp only [hsame, ne_eq, not_true_eq_false, false_or]
    by_cases hencodes : encodable request.userId = true ∧ encodable request.targetId = true
    · have hends := handle_ends d hd terminal hrt principal hrequest (fun _ => hencodes) m tr o m'
        hrun hwired
      rw [Ends.audited_iff hends, finding, if_neg (by simp [hsame]), ne_eq,
        requestFinding_missing_iff]
      simp [hencodes]
    · have hnone : encodable request.userId = false ∨ encodable request.targetId = false := by
        rcases not_and_or.mp hencodes with h | h
        · exact .inl (by simpa using h)
        · exact .inr (by simpa using h)
      have hraises := handle_unencodable d hd terminal hrt hsame hnone m tr o m' hrun hwired
      obtain ⟨ho, -, hquiet⟩ := hraises
      constructor
      · intro haudited
        rcases haudited with ⟨target, account, credential, r, hr⟩ | ⟨reason, -, hret, -⟩
        · exact absurd (hquiet _ hr) (by simp [isRelease])
        · rw [ho] at hret
          cases hret
      · exact fun h => absurd ⟨h.1, h.2.1⟩ hencodes
  · have hends := handle_ends d hd terminal hrt principal hrequest (fun h => absurd h hsame)
      m tr o m'
      hrun hwired
    rw [Ends.audited_iff hends, finding, if_pos hsame]
    simp [hsame]

end Runs

section Example

/-- One target with its account and an allowing policy. -/
def exampleOps : List Operation :=
  [.openPolicies true, .openTargets true, .openAccounts true,
    .storeTarget true (.object exampleTarget), .storeAccount true (.object exampleAccount),
    .storePolicy true (.object ⟨py "policy-1", py "user-1", py "target-1", .openPrivilegedSession,
      .allow⟩)]

def missingWorld (past : List PamEvent) : (c : PamCall) → Reply pamSignature c
  | .resolve _ => .error (vaultError "credential does not exist")
  | c => exampleWorld (.ok none) past c

/-- The calls of the request until the vault raises. -/
def missingTrace : List PamEvent :=
  [⟨.findMatching (py "user-1") (py "target-1") .openPrivilegedSession,
      .ok [⟨py "policy-1", py "user-1", py "target-1", .openPrivilegedSession, .allow⟩]⟩,
    ⟨.getTarget (py "target-1"), .ok (some exampleTarget)⟩,
    ⟨.findForTarget (py "target-1"), .ok (some exampleAccount)⟩,
    ⟨.resolve exampleAccount.credentialRef, .error (vaultError "credential does not exist")⟩]

theorem missingTrace_run :
    ((portService 1 (by decide)).handle examplePrincipal exampleRequest portTerminal).Run
      exampleMemory
      missingTrace (.raise (vaultError "credential does not exist")) exampleMemory :=
  Prog.run_exec missingWorld _ [] _ _ _ _ rfl

/-- A user who is signed in under another id. -/
def otherPrincipal : AuthenticatedPrincipal := ⟨py "user-2", py "bob", by decide, by decide⟩

/-- The password of the account is stored. -/
def storedCall : StoreCall :=
  ⟨true, exampleNonce 3, exampleNonce_length 3, exampleAccount.credentialRef, [115, 51]⟩

def storedGcm : AesGcm :=
  exampleGcm [⟨exampleNonce 3, [115, 51], none, [115, 51] ++ List.replicate 16 0⟩]

/-- The run of a request in the example world. -/
def exampleHandle (principal : AuthenticatedPrincipal) :
    Option (List PamEvent × PamOutcome AccessResult × Memory) :=
  ((portService 1 Int.one_pos).handle principal exampleRequest portTerminal).exec
    (exampleWorld (.ok (some .completed))) [] exampleMemory

theorem exampleOps_opened : Opened (ConfigurationDatabase.after exampleOps).1 := by
  constructor <;> decide +kernel

theorem exampleOps_targets :
    (ConfigurationDatabase.after exampleOps).2.targets = [exampleTarget] := by
  decide +kernel

theorem exampleOps_accounts :
    (ConfigurationDatabase.after exampleOps).2.accounts = [exampleAccount] := by
  decide +kernel

theorem exampleOps_single (t : PyStr) :
    ((ConfigurationDatabase.after exampleOps).2.accounts.filter (·.targetId = t)).length ≤ 1 := by
  rw [exampleOps_accounts]
  exact List.length_filter_le _ _

theorem example_genuine (calls : List StoreCall) (log : List Encryption)
    (h : (CredentialVault.after (exampleGcm log) calls).log = log)
    (hlog : ∀ e ∈ log, e.ciphertext.take (e.ciphertext.length - 16) = e.plaintext ∧
      e.ciphertext ≠ []) :
    Genuine (exampleGcm log) (CredentialVault.after (exampleGcm log) calls).log := by
  rw [h]
  exact exampleGcm_genuine hlog

theorem missingTrace_wired :
    ∀ ev ∈ missingTrace, Wired (runtimeOf exampleOps (exampleGcm []) []) ev := by
  decide +kernel

theorem exampleHandle_run (principal : AuthenticatedPrincipal) (rt : Runtime)
    (h : (exampleHandle principal).any (fun run => run.1.all (wired rt)) = true) :
    ∃ tr o m', exampleHandle principal = some (tr, o, m') ∧ ∀ ev ∈ tr, Wired rt ev := by
  cases hexec : exampleHandle principal with
  | none => simp [hexec] at h
  | some run =>
    obtain ⟨tr, o, m'⟩ := run
    rw [hexec] at h
    exact ⟨tr, o, m', rfl, fun ev hev => (wired_iff rt ev).mp (List.all_eq_true.mp h ev hev)⟩

/-- A request without a stored credential, one of another user, and one that is admitted. -/
theorem handle_audited_iff_example :
    ¬ Audited (finding (ConfigurationDatabase.after exampleOps).2 [] exampleRequest
      examplePrincipal) missingTrace (.raise (vaultError "credential does not exist")) ∧
    (∃ tr o m', exampleHandle otherPrincipal = some (tr, o, m') ∧
      Audited (finding (ConfigurationDatabase.after exampleOps).2 [] exampleRequest
        otherPrincipal) tr o) ∧
    ∃ tr o m', exampleHandle examplePrincipal = some (tr, o, m') ∧
      Audited (finding (ConfigurationDatabase.after exampleOps).2
        (CredentialVault.after storedGcm [storedCall]).stored exampleRequest examplePrincipal)
        tr o := by
  refine ⟨fun h => ?_, ?_, ?_⟩
  · have haudited := handle_audited_iff 1 (by decide) portTerminal exampleOps (exampleGcm []) []
      exampleOps_opened exampleOps_single (exampleGcm_genuine nofun)
      examplePrincipal exampleRequest rfl
      exampleMemory missingTrace_run missingTrace_wired
    have hlacks : LacksCredential (ConfigurationDatabase.after exampleOps).2 [] exampleRequest
        exampleTarget exampleAccount := {
      allowed := by decide +kernel
      targetFound := by rw [exampleOps_targets]; rfl
      targetEnabled := rfl
      accountFound := by rw [exampleOps_accounts]; rfl
      accountEnabled := rfl
      credential := rfl }
    rcases haudited.mp h with hother | ⟨-, -, hnone⟩
    · exact hother rfl
    · exact hnone ⟨_, _, hlacks⟩
  · obtain ⟨tr, o, m', hexec, hwired⟩ := exampleHandle_run otherPrincipal
      (runtimeOf exampleOps (exampleGcm []) []) (by decide +kernel)
    refine ⟨tr, o, m', hexec, ?_⟩
    have haudited := handle_audited_iff 1 Int.one_pos portTerminal exampleOps (exampleGcm []) []
      exampleOps_opened exampleOps_single (exampleGcm_genuine nofun) otherPrincipal exampleRequest
      rfl exampleMemory (Prog.run_exec _ _ _ _ _ _ _ hexec) hwired
    exact haudited.mpr (.inl (by decide))
  · obtain ⟨tr, o, m', hexec, hwired⟩ := exampleHandle_run examplePrincipal
      (runtimeOf exampleOps storedGcm [storedCall]) (by decide +kernel)
    refine ⟨tr, o, m', hexec, ?_⟩
    have hgenuine : Genuine storedGcm (CredentialVault.after storedGcm [storedCall]).log :=
      example_genuine _ _ (by decide +kernel) (by decide +kernel)
    have haudited := handle_audited_iff 1 Int.one_pos portTerminal exampleOps storedGcm
      [storedCall] exampleOps_opened exampleOps_single hgenuine examplePrincipal exampleRequest rfl
      exampleMemory (Prog.run_exec _ _ _ _ _ _ _ hexec) hwired
    refine haudited.mpr (.inr ⟨by decide +kernel, by decide +kernel, fun hlacks => ?_⟩)
    obtain ⟨target, account, hlacks⟩ := hlacks
    have hstored : plaintextOf (CredentialVault.after storedGcm [storedCall]).stored
        exampleAccount.credentialRef.id ≠ none := by decide +kernel
    have haccount : account ∈ (ConfigurationDatabase.after exampleOps).2.accounts :=
      List.mem_of_find?_eq_some hlacks.accountFound
    rw [exampleOps_accounts, List.mem_singleton] at haccount
    rw [← haccount] at hstored
    exact hstored hlacks.credential

/-- An account whose credential is not in the vault: the request ends in a `VaultError`,
and no event is recorded. -/
theorem credential_not_found_unaudited :
    ¬ ∀ (ops : List Operation) (gcm : AesGcm) (calls : List StoreCall),
      Opened (ConfigurationDatabase.after ops).1 →
      (∀ t, ((ConfigurationDatabase.after ops).2.accounts.filter (·.targetId = t)).length ≤ 1) →
      Genuine gcm (CredentialVault.after gcm calls).log →
      ∀ (principal : AuthenticatedPrincipal) (request : AccessRequest),
        request.postInit = .ok request → ∀ (m : Memory) (tr : List PamEvent)
        (o : PamOutcome AccessResult) (m' : Memory),
        ((portService 1 (by decide)).handle principal request portTerminal).Run m tr o m' →
        (∀ ev ∈ tr, Wired (runtimeOf ops gcm calls) ev) →
        Audited (finding (ConfigurationDatabase.after ops).2
          (CredentialVault.after gcm calls).stored
          request principal) tr o := by
  intro h
  have haudited := h exampleOps (exampleGcm []) [] exampleOps_opened exampleOps_single
    (exampleGcm_genuine nofun) examplePrincipal exampleRequest rfl exampleMemory missingTrace _ _
    missingTrace_run missingTrace_wired
  rcases haudited with ⟨target, account, credential, r, hr⟩ | ⟨reason, -, hret, -⟩
  · simp [missingTrace] at hr
  · cases hret

end Example

end PamMvp.RefusalAudit
