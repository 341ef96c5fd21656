import Mathlib.Data.List.Dedup
import PamMvp.LabProvisioning
import PamMvp.ServedAccess
import PamMvp.TotalPrograms

/-!
# Starting the application

`build_application` checks the paths and the keys and opens every database. In a runtime
that was provisioned each step has one possible answer, so the application starts, and the
databases of the tool are left as they were.
-/
namespace PamMvp.ApplicationStartup
open InteractionPrograms SharedPrograms TotalPrograms PythonText DomainModel SqliteValues
  RuntimeConfiguration RuntimeFiles LabProvisioning

section Startup

/-- The services, and the key that the vault decrypts with. -/
structure ApplicationServices where
  settings : RuntimeSettings
  vaultKey : Bytes
  authentication : UserAuthentication.AuthenticationService

/-- The access service with its ports. -/
def ApplicationServices.access (services : ApplicationServices) : AccessHandling.AccessService :=
  AccessAuditTrail.portService services.settings.maxSessionDuration
    services.settings.maxSessionDuration_pos

def configurationError (message : String) : PyExn :=
  raised .applicationConfigurationError (py message)

/-- `tuple(path.resolve(strict=False) for path in paths)`. -/
def resolveAll : List RuntimePath → Setup (List RuntimePath)
  | [] => return []
  | path :: paths => do
    let canonical ← ask (.resolve path)
    return canonical :: (← resolveAll paths)

/-- `_validate_distinct_paths`. -/
def validateDistinctPaths (paths : List RuntimePath) (message : String) : Setup Unit := do
  let canonicalPaths ← resolveAll paths
  if canonicalPaths.dedup.length ≠ canonicalPaths.length then throw (configurationError message)
  else return ()

/-- `build_application`. -/
def buildApplication (settings : RuntimeSettings) : Setup ApplicationServices := do
  validateDistinctPaths [settings.vaultKeyPath, settings.auditIntegrityKeyPath]
    "vault and audit integrity key paths must be distinct"
  validateDistinctPaths
    [settings.authDbPath, settings.configDbPath, settings.vaultDbPath, settings.auditDbPath]
    "authentication, config, vault, and audit database paths must be distinct"
  let vaultKey ← ask (.getKey settings.vaultKeyPath)
  let auditKey ← ask (.getKey settings.auditIntegrityKeyPath)
  if vaultKey = auditKey then
    throw (configurationError "vault and audit integrity keys must be distinct")
  else
    lift (newCipher vaultKey)
    ask (.openVault settings.vaultDbPath)
    ask (.openAudit settings.auditDbPath settings.auditIntegrityKeyPath)
    ask (.configure settings.configDbPath (.openPolicies true))
    ask (.configure settings.configDbPath (.openTargets true))
    ask (.configure settings.configDbPath (.openAccounts true))
    ask (.openUserAuth settings.authDbPath)
    let dummyHash ← ask .hashToken
    return ⟨settings, vaultKey, ⟨dummyHash⟩⟩

end Startup

section Answers

variable {α : Type} {env : Environment} {files files₁ : FileSystem}

/-- A call with an answer, after each of which the rest of the program ends well. -/
theorem totalOn_ask_bind {c : RuntimeCall} {p : c.Answer → Setup α}
    {Q : Outcome runtimeSignature α → FileSystem → Prop}
    (hanswered : ∃ r files', Answers env files c r files')
    (h : ∀ r files', Answers env files c r files' →
      ∃ a, r = .ok a ∧ TotalOn (Answers env) Q (p a) files') :
    TotalOn (Answers env) Q (ask c >>= p) files := by
  refine TotalOn.bind (P := fun o files' => ∃ a, o = .ret a ∧ TotalOn (Answers env) Q (p a) files')
    ?_ ?_ ?_
  · refine totalOn_perform hanswered (fun a files' hanswer => ?_) fun e files' hanswer => ?_
    · obtain ⟨b, hb, hrest⟩ := h _ _ hanswer
      cases hb
      exact ⟨a, rfl, hrest⟩
    · obtain ⟨b, hb, -⟩ := h _ _ hanswer
      cases hb
  · intro a files' hret
    obtain ⟨b, hb, hrest⟩ := hret
    cases hb
    exact hrest
  · intro e files' hraise
    obtain ⟨b, hb, -⟩ := hraise
    cases hb

/-- A call with one possible answer. -/
theorem totalOn_answer {c : RuntimeCall} {p : c.Answer → Setup α} {a : c.Answer}
    {Q : Outcome runtimeSignature α → FileSystem → Prop}
    (hanswer : ∀ r files', Answers env files c r files' ↔ r = .ok a ∧ files' = files₁)
    (h : TotalOn (Answers env) Q (p a) files₁) : TotalOn (Answers env) Q (ask c >>= p) files := by
  refine totalOn_ask_bind ⟨_, _, (hanswer _ _).mpr ⟨rfl, rfl⟩⟩ fun r files' hr => ?_
  obtain ⟨rfl, rfl⟩ := (hanswer _ _).mp hr
  exact ⟨a, rfl, h⟩

theorem resolveAll_total {β : Type} {Q : Outcome runtimeSignature β → FileSystem → Prop}
    {k : List RuntimePath → Setup β} (paths : List RuntimePath)
    (h : TotalOn (Answers env) Q (k (paths.map files.resolve)) files) :
    TotalOn (Answers env) Q (resolveAll paths >>= k) files := by
  induction paths generalizing k with
  | nil => exact h
  | cons path paths ih =>
    unfold resolveAll
    simp only [bind_assoc, pure_bind]
    exact totalOn_answer (fun r files' => Iff.rfl) (ih h)

/-- Different names in one directory stay different. -/
theorem validateDistinctPaths_total {β : Type} {Q : Outcome runtimeSignature β → FileSystem → Prop}
    {k : Unit → Setup β} (directory : PyStr) {names : List PyStr} {message : String}
    (hnames : names.Nodup)
    (hresolve : ∀ name ∈ names, files.resolve ⟨directory, name⟩ = ⟨files.canonical directory, name⟩)
    (h : TotalOn (Answers env) Q (k ()) files) :
    TotalOn (Answers env) Q
      (validateDistinctPaths (names.map (RuntimePath.mk directory)) message >>= k) files := by
  unfold validateDistinctPaths
  rw [bind_assoc]
  apply resolveAll_total
  have hmap : (names.map (RuntimePath.mk directory)).map files.resolve =
      names.map (RuntimePath.mk (files.canonical directory)) := by
    rw [List.map_map]
    exact List.map_congr_left hresolve
  have hdistinct : (names.map (RuntimePath.mk (files.canonical directory))).Nodup := by
    refine hnames.map fun name name' hpath => ?_
    exact congrArg RuntimePath.name hpath
  rw [hmap, List.dedup_eq_self.mpr hdistinct]
  simpa using h

end Answers

section Provisioned

open ConfigurationDatabase AdapterSchemas EnforcedUniqueness CreatedTables

variable {env : Environment} {files : FileSystem} {directory : PyStr} {vaultKey auditKey : Bytes}
  {shown : Role → SqliteFile}

/-- A table with the expected columns is opened as it is. -/
theorem openTable_unchanged {ρ : Type} {columns : List TableSchemas.Column}
    (notInitialized unsupported : PyExn) {table : Option (TableSchemas.Table ρ)}
    (h : Expected columns table) : ∃ t, table = some t ∧
      openTable columns notInitialized unsupported true table = .ok t := by
  obtain ⟨t, rfl, hdefinition⟩ := h
  refine ⟨t, rfl, ?_⟩
  simp [openTable, hdefinition]

theorem run_unchanged {db : ConfigDb} (h : Complete db) :
    (ConfigurationDatabase.Operation.openTargets true).run db = .ok db ∧
      (ConfigurationDatabase.Operation.openAccounts true).run db = .ok db ∧
      (ConfigurationDatabase.Operation.openPolicies true).run db = .ok db := by
  obtain ⟨targets, htargets, hopenTargets⟩ := openTable_unchanged
    (raised .configStorageError (py "target database could not be initialized"))
    (raised .configStorageError (py "target database schema is unsupported")) h.targets
  obtain ⟨accounts, haccounts, hopenAccounts⟩ := openTable_unchanged
    (raised .configStorageError (py "privileged account database could not be initialized"))
    (raised .configStorageError (py "privileged account database schema is unsupported")) h.accounts
  obtain ⟨policies, hpolicies, hopenPolicies⟩ := openTable_unchanged
    (raised .policyStorageError (py "policy database could not be initialized"))
    (raised .policyStorageError (py "policy database schema is unsupported")) h.policies
  refine ⟨?_, ?_, ?_⟩
  · rw [ConfigurationDatabase.Operation.run, openTargets, hopenTargets]
    change Except.ok { db with targets := some targets } = _
    rw [← htargets]
  · rw [ConfigurationDatabase.Operation.run, openAccounts, hopenAccounts]
    change Except.ok { db with accounts := some accounts } = _
    rw [← haccounts]
  · rw [ConfigurationDatabase.Operation.run, openPolicies, hopenPolicies]
    change Except.ok { db with policies := some policies } = _
    rw [← hpolicies]

theorem configures_iff {op : ConfigurationDatabase.Operation} {file file' : SqliteFile}
    {r : Except PyExn Unit} {config : ConfigDb} (hrun : op.run file.config = .ok config) :
    Configures op file r file' ↔ r = .ok () ∧ file' = { file with config := config } := by
  rw [Configures, hrun]

/-- The services are there, and only the audit database was written to. -/
structure Started (settings : RuntimeSettings) (directory : PyStr) (vaultKey auditKey : Bytes)
    (shown : Role → SqliteFile) (services : ApplicationServices) (files : FileSystem) : Prop where
  same_settings : services.settings = settings
  same_key : services.vaultKey = vaultKey
  stands : ∃ file, Holding .audit file.database [] ∧
    Stands directory vaultKey auditKey (Function.update shown .audit file) files

theorem runtimeSettings_paths {runtimeDir : PyStr} {seconds : PyFloat} {settings : RuntimeSettings}
    (h : runtimeSettings runtimeDir seconds = .ok settings) :
    settings.authDbPath = Role.auth.path runtimeDir ∧
      settings.configDbPath = Role.config.path runtimeDir ∧
      settings.vaultDbPath = Role.vault.path runtimeDir ∧
      settings.auditDbPath = Role.audit.path runtimeDir ∧
      settings.vaultKeyPath = vaultKeyPath runtimeDir ∧
      settings.auditIntegrityKeyPath = auditKeyPath runtimeDir := by
  obtain ⟨duration, -, h⟩ := (except_bind_ok_iff _ _ _).mp h
  split_ifs at h with hpositive
  cases h
  exact ⟨rfl, rfl, rfl, rfl, rfl, rfl⟩

section Steps

variable {α : Type} {Q : Outcome runtimeSignature α → FileSystem → Prop} {p : Unit → Setup α}
  {rows : List (List SqlValue)}

theorem getKey_total {path : RuntimePath} {key : Bytes} {k : Bytes → Setup α}
    (hkey : (files.node path).key = .ok key) (hrest : TotalOn (Answers env) Q (k key) files) :
    TotalOn (Answers env) Q (ask (.getKey path) >>= k) files := by
  have hanswer : ∀ r files', Answers env files (.getKey path) r files' ↔
      r = .ok key ∧ files' = files := by
    intro r files'
    simp only [RuntimeFiles.Answers, hkey]
  exact totalOn_answer hanswer hrest

/-- The configuration is opened as it is. -/
theorem configure_total {op : ConfigurationDatabase.Operation}
    (h : Stands directory vaultKey auditKey shown files)
    (hrun : op.run (shown .config).config = .ok (shown .config).config)
    (hrest : ∀ files', Stands directory vaultKey auditKey shown files' →
      TotalOn (Answers env) Q (p ()) files') :
    TotalOn (Answers env) Q (ask (.configure (Role.config.path directory) op) >>= p) files := by
  have hcall : ∀ r file', Configures op (shown .config) r file' ↔
      r = .ok () ∧ file' = shown .config := fun r file' => configures_iff hrun
  exact totalOn_answer (c := .configure _ op) (h.answers .config hcall)
    (hrest _ (h.rewrite .config))

theorem openVault_total (h : Stands directory vaultKey auditKey shown files)
    (hholding : Holding .vault (shown .vault).database rows)
    (hrest : ∀ files', Stands directory vaultKey auditKey shown files' →
      TotalOn (Answers env) Q (p ()) files') :
    TotalOn (Answers env) Q (ask (.openVault (Role.vault.path directory)) >>= p) files := by
  have hkey : KeyFor .none .vault := fun hrole => by cases hrole
  have hcall : ∀ r file', Constructs .vault .none (shown .vault) r file' ↔
      r = .ok () ∧ file' = shown .vault := fun r file' => constructs_holding hholding hkey
  exact totalOn_answer (c := .openVault _) (h.answers .vault hcall) (hrest _ (h.rewrite .vault))

theorem openUserAuth_total (h : Stands directory vaultKey auditKey shown files)
    (hholding : Holding .userAuth (shown .auth).database rows)
    (hrest : ∀ files', Stands directory vaultKey auditKey shown files' →
      TotalOn (Answers env) Q (p ()) files') :
    TotalOn (Answers env) Q (ask (.openUserAuth (Role.auth.path directory)) >>= p) files := by
  have hkey : KeyFor .none .userAuth := fun hrole => by cases hrole
  have hcall : ∀ r file', Constructs .userAuth .none (shown .auth) r file' ↔
      r = .ok () ∧ file' = shown .auth := fun r file' => constructs_holding hholding hkey
  exact totalOn_answer (c := .openUserAuth _) (h.answers .auth hcall) (hrest _ (h.rewrite .auth))

/-- The audit table is created in a missing file. -/
theorem openAudit_total (h : Stands directory vaultKey auditKey shown files)
    (hempty : shown .audit = .empty)
    (hrest : ∀ file files', Holding .audit file.database [] →
      Stands directory vaultKey auditKey (Function.update shown .audit file) files' →
      TotalOn (Answers env) Q (p ()) files') :
    TotalOn (Answers env) Q
      (ask (.openAudit (Role.audit.path directory) (auditKeyPath directory)) >>= p) files := by
  have hkey : KeyFor (.bytes auditKey) .audit := fun _ =>
    ⟨auditKey, if_pos (key_regular h.auditKey).2⟩
  obtain ⟨db, hholding, hcreates⟩ := constructs_empty .audit (.bytes auditKey) hkey
  rw [← hempty] at hcreates
  have hanswer : ∀ r files', Answers env files
      (.openAudit (Role.audit.path directory) (auditKeyPath directory)) r files' ↔ r = .ok () ∧
        files' = files.write (Role.audit.path directory) ⟨db, ConfigDb.empty⟩ := by
    intro r files'
    simp only [RuntimeFiles.Answers, h.auditKey]
    exact h.answers .audit hcreates r files'
  exact totalOn_answer (c := .openAudit _ _) hanswer
    (hrest ⟨db, ConfigDb.empty⟩ _ hholding (h.write .audit _))

theorem hashToken_total (hreliable : env.Reliable) {k : PyStr → Setup α}
    (hrest : ∀ hash, TotalOn (Answers env) Q (k hash) files) :
    TotalOn (Answers env) Q (ask .hashToken >>= k) files := by
  have hhashes : ∀ salt token, SshConnecting.ascii token = true →
      ∃ hash, env.argon2.hashPassword salt token = .ok hash := by
    intro salt token htoken
    obtain ⟨hash, hhash⟩ := hreliable.hashes salt token htoken
    exact ⟨hash, by rw [Argon2.hashPassword, hhash]; rfl⟩
  refine totalOn_ask_bind ⟨_, files, ⟨[], [], rfl, rfl⟩, rfl⟩ fun r files' hanswer => ?_
  obtain ⟨⟨salt, token, htoken, rfl⟩, rfl⟩ := hanswer
  obtain ⟨hash, hhash⟩ := hhashes salt token htoken
  exact ⟨hash, hhash, hrest hash⟩

end Steps

/-- Nothing can fail on the way: the application starts in a provisioned runtime. -/
theorem buildApplication_total (hreliable : env.Reliable) {seconds : PyFloat}
    {settings : RuntimeSettings} (hsettings : runtimeSettings directory seconds = .ok settings)
    (h : Stands directory vaultKey auditKey shown files) (hkeys : vaultKey ≠ auditKey)
    {records : LabRecords} {pamPassword targetPassword : PyStr}
    (hprovisioned : Provisioned env records vaultKey pamPassword targetPassword shown) :
    TotalOn (Answers env) (fun o files' => ∃ services, o = .ret services ∧
      Started settings directory vaultKey auditKey shown services files')
      (buildApplication settings) files := by
  obtain ⟨hauth, hconfig, hvault, haudit, hvaultKey, hauditKey⟩ := runtimeSettings_paths hsettings
  unfold buildApplication
  rw [hauth, hconfig, hvault, haudit, hvaultKey, hauditKey]
  have hkeyNames : [py "vault.key", py "audit.key"].Nodup := by decide
  refine validateDistinctPaths_total directory hkeyNames ?_ ?_
  · intro name hname
    simp only [List.mem_cons, List.not_mem_nil, or_false] at hname
    rcases hname with rfl | rfl
    · exact (h.resolve_key).1
    · exact (h.resolve_key).2
  have hfileNames : ([Role.auth, .config, .vault, .audit].map Role.fileName).Nodup := by decide
  refine validateDistinctPaths_total directory hfileNames ?_ ?_
  · intro name hname
    obtain ⟨role, -, rfl⟩ := List.mem_map.mp hname
    exact h.resolve_database role
  refine getKey_total h.vaultKey (getKey_total h.auditKey ?_)
  have hcipher : newCipher vaultKey = .ok () := if_pos (key_regular h.vaultKey).2
  rw [if_neg hkeys, hcipher]
  obtain ⟨nonce, secret, -, -, hvaultHolding⟩ := hprovisioned.credential.choose_spec.2
  obtain ⟨salt, encodedHash, row, -, -, -, hauthHolding⟩ := hprovisioned.user
  obtain ⟨hopenTargets, hopenAccounts, hopenPolicies⟩ := run_unchanged hprovisioned.complete
  refine openVault_total h hvaultHolding fun _ h => ?_
  refine openAudit_total h hprovisioned.audit fun file _ hauditHolding h => ?_
  refine configure_total h hopenPolicies fun _ h => ?_
  refine configure_total h hopenTargets fun _ h => ?_
  refine configure_total h hopenAccounts fun _ h => ?_
  refine openUserAuth_total h hauthHolding fun _ h => ?_
  exact hashToken_total hreliable fun hash => ⟨_, rfl, rfl, rfl, file, hauditHolding, h⟩

end Provisioned

end PamMvp.ApplicationStartup
