import PamMvp.HostKeyPins
import PamMvp.ReturningPrograms
import PamMvp.RuntimeFiles

/-!
# Provisioning a lab

`provision_lab` builds the four records of the configuration, makes the directory and the
keys, reads two passwords, and stores the records and the encrypted password. Whatever
fails on the way raises; a run that returns has left the records of the configuration in
databases that nothing else was written to.
-/
namespace PamMvp.LabProvisioning
open InteractionPrograms SharedPrograms ReturningPrograms PythonText DomainModel SqliteValues
  UserAuthentication RuntimeConfiguration RuntimeFiles

section Tool

structure LabProvisioningConfig where
  runtimeDir : PyStr
  userId : PyStr := py "user-001"
  username : PyStr := py "goksu"
  targetId : PyStr := py "target-001"
  targetName : PyStr := py "linux-server-1"
  targetHost : PyStr := py "192.168.122.227"
  targetPort : ℤ := 22
  hostKeyFingerprint : PyStr := py "SHA256:sN8IiNCiH3HWetmR/J3uRvPfer4s0AcIP3BebXieUuI"
  credentialRef : PyStr := py "cred-001"
  accountId : PyStr := py "account-001"
  accountUsername : PyStr := py "pamadmin"
  policyId : PyStr := py "policy-001"

structure LabRuntimePaths where
  runtimeDir : PyStr
  vaultKey : RuntimePath
  auditKey : RuntimePath
  authDb : RuntimePath
  configDb : RuntimePath
  vaultDb : RuntimePath
  auditDb : RuntimePath

namespace LabRuntimePaths

def within (runtimeDir : PyStr) : LabRuntimePaths where
  runtimeDir := runtimeDir
  vaultKey := ⟨runtimeDir, py "vault.key"⟩
  auditKey := ⟨runtimeDir, py "audit.key"⟩
  authDb := ⟨runtimeDir, py "auth.db"⟩
  configDb := ⟨runtimeDir, py "config.db"⟩
  vaultDb := ⟨runtimeDir, py "vault.db"⟩
  auditDb := ⟨runtimeDir, py "audit.db"⟩

def databases (paths : LabRuntimePaths) : List RuntimePath :=
  [paths.authDb, paths.configDb, paths.vaultDb, paths.auditDb]

end LabRuntimePaths

def labError (message : String) : PyExn := raised .labProvisioningError (py message)

/-- What `_build_records` makes of a configuration. -/
structure LabRecords where
  user : User
  target : Target
  account : PrivilegedAccount
  policy : AccessPolicy

/-- `_build_records`. -/
def buildRecords (config : LabProvisioningConfig) : Except PyExn LabRecords :=
  ConfigurationRows.catchInvalid (labError "lab configuration contains invalid values") do
    let fingerprint ← HostKeyPins.parseOpensshSha256Fingerprint config.hostKeyFingerprint
    let credentialRef ← CredentialRef.new config.credentialRef
    let user ← User.postInit ⟨config.userId, config.username, true⟩
    let target ← Target.postInit
      { id := config.targetId
        name := config.targetName
        host := config.targetHost
        port := config.targetPort
        expectedHostKey := fingerprint
        enabled := true }
    let account ← PrivilegedAccount.postInit
      { id := config.accountId
        targetId := config.targetId
        username := config.accountUsername
        credentialRef := credentialRef
        enabled := true }
    let policy ← AccessPolicy.postInit
      { id := config.policyId
        userId := config.userId
        targetId := config.targetId
        action := .openPrivilegedSession
        effect := .allow }
    return ⟨user, target, account, policy⟩

/-- `except Exception: raise LabProvisioningError(message)`. -/
def guarded (p : Setup Unit) (message : String) : Setup Unit :=
  p.tryExcept fun e => throw (if e.isException then labError message else e)

/-- `except OSError: raise LabProvisioningError(message)`. -/
def osGuarded {α : Type} (p : Setup α) (message : String) : Setup α :=
  p.tryExcept fun e =>
    throw (if e.cls = .osError ∨ e.cls = .fileExistsError then labError message else e)

/-- `try: os.close(descriptor) except OSError: pass`. -/
def closeQuietly (descriptor : Descriptor) : Setup Unit :=
  (ask (.close descriptor)).tryExcept fun e =>
    if e.cls = .osError then return () else throw e

/-- The `try` statement of `_ensure_private_runtime_directory`. -/
def inspectDirectory (runtimeDir : PyStr) : Setup ℕ :=
  osGuarded (do
    if ← ask (.isSymlink runtimeDir) then
      throw (labError "runtime directory must not be a symbolic link")
    else
      let existed ← ask (.directoryExists runtimeDir)
      ask (.mkdir runtimeDir 0o700)
      let descriptor ← ask (.openDirectory runtimeDir)
      Prog.tryFinally (do
        if existed then ask (.fstat descriptor)
        else
          ask (.fchmod descriptor 0o700)
          ask (.fstat descriptor)) (closeQuietly descriptor))
    "runtime directory could not be created or inspected"

/-- `_ensure_private_runtime_directory`. -/
def ensurePrivateRuntimeDirectory (runtimeDir : PyStr) : Setup Unit := do
  let stMode ← inspectDirectory runtimeDir
  if !KeyFiles.isDirectory stMode then throw (labError "runtime path is not a directory")
  else if KeyFiles.permissions stMode ≠ 0o700 then
    throw (labError "runtime directory permissions must be owner-only (0700)")
  else return ()

/-- `_reject_existing_databases`. -/
def rejectExistingDatabases : List RuntimePath → Setup Unit
  | [] => return ()
  | path :: paths => do
    if ← ask (.fileExists path) then
      throw (labError "a lab database already exists; use a fresh runtime directory")
    else rejectExistingDatabases paths

/-- `os.open(path, O_WRONLY | O_CREAT | O_EXCL)`; `none` is a file that exists already. -/
def createKeyFile (path : RuntimePath) (purpose : String) : Setup (Option Descriptor) :=
  Prog.tryExcept (do return some (← ask (.createKey path))) fun e =>
    if e.cls = .fileExistsError then return none
    else if e.cls = .osError then throw (labError (purpose ++ " key file could not be created"))
    else throw e

/-- The `try` statement that fills a new key file. Its descriptor is closed by the handler
or, once the stream has it, by `os.fdopen`. -/
def fillKeyFile (descriptor : Descriptor) (key : Bytes) (purpose : String) : Setup Unit := do
  let notWritten := labError (purpose ++ " key file could not be written")
  (ask (.fchmod descriptor 0o600)).tryExcept fun e => do
    if e.cls = .osError then
      ask (.close descriptor)
      throw notWritten
    else throw e
  (ask (.writeKey descriptor key)).tryExcept fun e =>
    throw (if e.cls = .osError then notWritten else e)

def ensureKeyFile (path : RuntimePath) (purpose : String) : Setup Unit := do
  match ← createKeyFile path purpose with
  | none => return ()
  | some descriptor => do
    let key ← ask (.tokenBytes KeyFiles.FileKeyProvider.keySize)
    fillKeyFile descriptor key purpose

/-- `_load_or_create_key`. -/
def loadOrCreateKey (path : RuntimePath) (purpose : String) : Setup Bytes := do
  ensureKeyFile path purpose
  (ask (.getKey path)).tryExcept fun e =>
    throw (if e.cls = .keyProviderError then
      labError (purpose ++ " key file is invalid or has unsafe permissions") else e)

/-- `_read_password`. -/
def readPassword (prompt : String) : Setup PyStr := do
  let password ← (ask (.readSecret (py prompt))).tryExcept fun e =>
    throw (if e.cls = .eofError ∨ e.cls = .keyboardInterrupt then
      labError "secret entry was cancelled" else e)
  match password with
  | .str (c :: rest) => return c :: rest
  | _ => throw (labError "password cannot be empty")

/-- The repositories and the vault, opened in `_owner_only_file_creation`. -/
def openLabDatabases (paths : LabRuntimePaths) : Setup Unit :=
  guarded (do
    let previous ← ask (.umask 0o077)
    Prog.tryFinally (do
      ask (.openUserAuth paths.authDb)
      ask (.configure paths.configDb (.openTargets true))
      ask (.configure paths.configDb (.openAccounts true))
      ask (.configure paths.configDb (.openPolicies true))
      ask (.openVault paths.vaultDb)) (do
        let _ ← ask (.umask previous)
        return ()))
    "lab databases could not be initialized"

def storeConfiguration (paths : LabRuntimePaths) (records : LabRecords) : Setup Unit :=
  guarded (do
    ask (.configure paths.configDb (.storeTarget true (.object records.target)))
    ask (.configure paths.configDb (.storeAccount true (.object records.account)))
    ask (.configure paths.configDb (.storePolicy true (.object records.policy))))
    "lab configuration could not be provisioned"

/-- `provision_lab`. -/
def provisionLab (config : LabProvisioningConfig) : Setup LabRuntimePaths := do
  let paths := LabRuntimePaths.within config.runtimeDir
  let records ← lift (buildRecords config)
  ensurePrivateRuntimeDirectory paths.runtimeDir
  rejectExistingDatabases paths.databases
  let vaultKey ← loadOrCreateKey paths.vaultKey "vault"
  let auditKey ← loadOrCreateKey paths.auditKey "audit integrity"
  if vaultKey = auditKey then throw (labError "vault and audit integrity keys must be distinct")
  else
    guarded (lift (newCipher vaultKey)) "vault cipher could not be initialized"
    let pamPassword ← readPassword "PAM application user password: "
    let targetPassword ← readPassword "Target pamadmin SSH password: "
    openLabDatabases paths
    guarded (ask (.createUser paths.authDb records.user pamPassword))
      "PAM user could not be provisioned"
    storeConfiguration paths records
    match encodeUtf8 targetPassword with
    | none => throw (labError "target password could not be encoded")
    | some targetSecret =>
      guarded (ask (.storeCredential paths.vaultDb vaultKey records.account.credentialRef
        targetSecret)) "target credential could not be encrypted and stored"
      return paths

end Tool

section Calls

variable {env : Environment} {files files' : FileSystem}

/-- A call that succeeds is answered as if nothing failed. -/
theorem serves_ok {c : RuntimeCall} {a : c.Answer} (h : Serves env files c (.ok a) files') :
    Answers env files c (.ok a) files' := by
  rcases h with h | ⟨e, he, -⟩
  · exact h
  · cases he

theorem returns_ask {c : RuntimeCall} {Q : c.Answer → FileSystem → Prop}
    (h : ∀ a files', Answers env files c (.ok a) files' → Q a files') :
    Returns (Serves env) (ask c) files Q :=
  returns_perform fun a files' hserve => h a files' (serves_ok hserve)

theorem returns_ask_bind {α : Type} {c : RuntimeCall} {p : c.Answer → Setup α}
    {Q : α → FileSystem → Prop}
    (h : ∀ a files', Answers env files c (.ok a) files' → Returns (Serves env) (p a) files' Q) :
    Returns (Serves env) (ask c >>= p) files Q :=
  (returns_ask fun _ _ hanswer => hanswer).bind h

/-- A call that leaves what stands under the paths of files. -/
theorem keeps_ask {c : RuntimeCall}
    (h : ∀ files a files', Answers env files c (.ok a) files' → files'.node = files.node) :
    Keeps (Serves env) FileSystem.node (ask c) :=
  keeps_perform fun files a files' hserve => h files a files' (serves_ok hserve)

end Calls

section Directories

variable {env : Environment} {files : FileSystem}

theorem closeQuietly_keeps (descriptor : Descriptor) :
    Keeps (Serves env) FileSystem.node (closeQuietly descriptor) := by
  intro files
  apply returns_of_ensures
  refine EnsuresOn.tryExcept (P := fun _ files' => files' = files) ?_ ?_ ?_
  · refine ensuresOn_perform (fun a files' hserve => (serves_ok hserve).2) fun e files' hserve => ?_
    rcases hserve with hanswer | ⟨_, -, hsame⟩
    · exact hanswer.2
    · exact hsame
  · intro a files' hsame b _
    rw [hsame]
  · intro e files' hsame
    split_ifs
    · exact ensuresOn_ret _ fun b _ => by rw [hsame]
    · exact ensuresOn_raise (S := runtimeSignature) e fun b hb => by cases hb

theorem inspectDirectory_keeps (runtimeDir : PyStr) :
    Keeps (Serves env) FileSystem.node (inspectDirectory runtimeDir) := by
  refine Keeps.rethrown (Keeps.bind ?_ fun link => ?_)
  · exact keeps_ask fun files a files' h => by rw [h.2]
  split_ifs
  · exact keeps_raise _
  refine Keeps.bind ?_ fun existed => Keeps.bind ?_ fun _ => ?_
  · exact keeps_ask fun files a files' h => by rw [h.2]
  · exact keeps_ask fun files a files' h => (Makes.made h).node
  · intro files
    refine Returns.bind (P := fun descriptor files' => descriptor = .directory runtimeDir ∧
      files'.node = files.node) ?_ fun descriptor files' h => ?_
    · refine returns_ask fun descriptor files' h => ?_
      simp only [Answers] at h
      split at h
      · obtain ⟨hdescriptor, rfl⟩ := h
        exact ⟨Except.ok.inj hdescriptor, rfl⟩
      · obtain ⟨⟨e, he, -⟩, -⟩ := h
        cases he
    · obtain ⟨rfl, hnode⟩ := h
      rw [← hnode]
      have hfstat : Keeps (Serves env) FileSystem.node (ask (.fstat (.directory runtimeDir))) :=
        keeps_ask fun files a files' h => by rw [h.2]
      have hfchmod : Keeps (Serves env) FileSystem.node
          (ask (.fchmod (.directory runtimeDir) 0o700)) :=
        keeps_ask fun files a files' h => by
          rw [h.2]
          rfl
      refine Keeps.tryFinally ?_ (closeQuietly_keeps _) files'
      split_ifs
      · exact hfstat
      · exact hfchmod.bind fun _ => hfstat

theorem ensurePrivateRuntimeDirectory_keeps (runtimeDir : PyStr) :
    Keeps (Serves env) FileSystem.node (ensurePrivateRuntimeDirectory runtimeDir) := by
  refine (inspectDirectory_keeps runtimeDir).bind fun stMode => ?_
  split_ifs
  · exact keeps_raise _
  · exact keeps_raise _
  · exact keeps_pure _

theorem rejectExistingDatabases_keeps (paths : List RuntimePath) :
    Keeps (Serves env) FileSystem.node (rejectExistingDatabases paths) := by
  induction paths with
  | nil => exact keeps_pure _
  | cons path paths ih =>
    refine Keeps.bind (keeps_ask fun files a files' h => by rw [h.2]) fun found => ?_
    split_ifs
    · exact keeps_raise _
    · exact ih

end Directories

section Keys

variable {env : Environment}

/-- Everything but the file at the path stands as before. -/
def OnlyAt (path : RuntimePath) (files files' : FileSystem) : Prop :=
  ∀ other, other ≠ path → files'.node other = files.node other

theorem OnlyAt.refl (path : RuntimePath) (files : FileSystem) : OnlyAt path files files :=
  fun _ _ => rfl

theorem OnlyAt.trans {path : RuntimePath} {files files₁ files' : FileSystem}
    (h : OnlyAt path files files₁) (h' : OnlyAt path files₁ files') : OnlyAt path files files' :=
  fun other hother => (h' other hother).trans (h other hother)

theorem onlyAt_put (path : RuntimePath) (files : FileSystem) (node : Node) :
    OnlyAt path files (files.put path node) :=
  fun _ hother => files.node_put_of_ne node hother

theorem createKeyFile_returns (path : RuntimePath) (purpose : String) (files : FileSystem) :
    Returns (Serves env) (createKeyFile path purpose) files fun created files' =>
      OnlyAt path files files' ∧
        ∀ descriptor, created = some descriptor → descriptor = .file path := by
  apply returns_of_ensures
  refine EnsuresOn.tryExcept (P := fun o files' => match o with
    | .ret created => created = some (.file path) ∧ OnlyAt path files files'
    | .raise e => e.cls = .fileExistsError → files' = files) ?_ ?_ ?_
  · refine EnsuresOn.bind (P := fun o files' => match o with
      | .ret descriptor => descriptor = .file path ∧ OnlyAt path files files'
      | .raise e => e.cls = .fileExistsError → files' = files) ?_ ?_ fun e files' h => h
    · refine ensuresOn_perform (fun descriptor files' hserve => ?_) fun e files' hserve => ?_
      · have hanswer := serves_ok hserve
        simp only [Answers] at hanswer
        split at hanswer
        · obtain ⟨hok, permissions, rfl⟩ := hanswer
          exact ⟨Except.ok.inj hok, onlyAt_put _ _ _⟩
        · cases hanswer.1
      · intro hexists
        rcases hserve with hanswer | ⟨_, he, hother⟩
        · simp only [Answers] at hanswer
          split at hanswer
          · cases hanswer.1
          · exact hanswer.2
        · cases he
          exact absurd hexists hother
    · intro descriptor files' h
      exact ensuresOn_ret _ ⟨by rw [h.1], h.2⟩
  · intro created files' h other hother
    cases hother
    refine ⟨h.2, fun descriptor hdescriptor => ?_⟩
    rw [h.1] at hdescriptor
    exact (Option.some.inj hdescriptor).symm
  · intro e files' h
    split_ifs with hexists hos
    · refine ensuresOn_ret _ fun created hcreated => ?_
      cases hcreated
      rw [h hexists]
      exact ⟨.refl _ _, by simp⟩
    · exact ensuresOn_raise (S := runtimeSignature) _ fun created hcreated => by cases hcreated
    · exact ensuresOn_raise (S := runtimeSignature) _ fun created hcreated => by cases hcreated

theorem fillKeyFile_returns (path : RuntimePath) (key : Bytes) (purpose : String)
    (files : FileSystem) : Returns (Serves env) (fillKeyFile (.file path) key purpose) files
      fun _ files' => OnlyAt path files files' := by
  refine Returns.bind (P := fun _ files' => OnlyAt path files files') ?_ fun _ files₁ h => ?_
  · refine Returns.tryExcept (returns_ask fun a files' h => ?_) fun e files' => ?_
    · rw [h.2]
      exact onlyAt_put _ _ _
    · split_ifs
      · exact Returns.bind (P := fun _ _ => True) (fun _ _ _ => trivial) fun _ _ _ =>
          returns_raise _ _
      · exact returns_raise _ _
  · refine Returns.rethrown (returns_ask fun a files' hanswer => h.trans ?_)
    simp only [Answers] at hanswer
    split at hanswer
    · rw [hanswer.2]
      exact onlyAt_put _ _ _
    · rw [hanswer.2]
      exact .refl _ _

/-- The key that is returned is the one that can be read from then on. -/
theorem loadOrCreateKey_returns (path : RuntimePath) (purpose : String) (files : FileSystem) :
    Returns (Serves env) (loadOrCreateKey path purpose) files fun key files' =>
      (files'.node path).key = .ok key ∧ OnlyAt path files files' := by
  have hensure : Returns (Serves env) (ensureKeyFile path purpose) files
      fun _ files' => OnlyAt path files files' := by
    refine (createKeyFile_returns path purpose files).bind fun created files₁ h => ?_
    cases created with
    | none => exact returns_pure h.1
    | some descriptor =>
      obtain rfl := h.2 descriptor rfl
      refine Returns.bind (P := fun _ files' => files' = files₁)
        (returns_ask fun key files' hanswer => hanswer.2) fun key files₂ hsame => ?_
      rw [hsame]
      exact (fillKeyFile_returns path key purpose files₁).mono fun _ _ hfill => h.1.trans hfill
  refine hensure.bind fun _ files₁ h => Returns.rethrown (returns_ask fun key files' hanswer => ?_)
  obtain ⟨hkey, rfl⟩ := hanswer
  exact ⟨hkey.symm, h⟩

theorem readPassword_returns (prompt : String) (files : FileSystem) :
    Returns (Serves env) (readPassword prompt) files fun password files' =>
      env.readSecret (py prompt) = .ok (.str password) ∧ files' = files := by
  refine Returns.bind (P := fun secret files' => env.readSecret (py prompt) = .ok secret ∧
    files' = files) ?_ fun secret files' h => ?_
  · exact Returns.rethrown (returns_ask fun secret files' hanswer => ⟨hanswer.1.symm, hanswer.2⟩)
  · obtain ⟨hsecret, rfl⟩ := h
    split
    · exact returns_pure ⟨hsecret, rfl⟩
    · exact returns_raise _ _

end Keys

section Configuration

open ConfigurationDatabase

/-- The table is there with the columns that its repository expects. -/
def Expected {ρ : Type} (columns : List TableSchemas.Column)
    (table : Option (TableSchemas.Table ρ)) :
    Prop :=
  ∃ t, table = some t ∧ t.definition = columns

/-- All three tables of the configuration are there. -/
structure Complete (db : ConfigDb) : Prop where
  targets : Expected targetColumns db.targets
  accounts : Expected accountColumns db.accounts
  policies : Expected policyColumns db.policies

variable {db db' : ConfigDb} {s : Stores} {op : ConfigurationDatabase.Operation}

theorem run_represents (h : Represents db s) (hrun : op.run db = .ok db') :
    Represents db' (s.add op) := by
  have hstep := step_represents h op
  simpa only [step, hrun] using hstep

theorem openTable_expected {ρ : Type} {columns : List TableSchemas.Column}
    {notInitialized unsupported : PyExn} {available : Bool} {table : Option (TableSchemas.Table ρ)}
    {opened : TableSchemas.Table ρ}
    (h : openTable columns notInitialized unsupported available table = .ok opened) :
    Expected columns (some opened) := by
  unfold openTable at h
  dsimp only at h
  split_ifs at h with _ hsame
  cases h
  exact ⟨_, rfl, not_not.mp hsame⟩

theorem Expected.stored {ρ : Type} {columns : List TableSchemas.Column}
    {table : Option (TableSchemas.Table ρ)} (h : Expected columns table) (rows : List ρ) :
    Expected columns (table.map fun t => { t with rows := rows }) := by
  obtain ⟨t, rfl, hdefinition⟩ := h
  exact ⟨_, rfl, hdefinition⟩

theorem complete_opened {db₁ db₂ db₃ : ConfigDb}
    (htargets : (ConfigurationDatabase.Operation.openTargets true).run db = .ok db₁)
    (haccounts : (ConfigurationDatabase.Operation.openAccounts true).run db₁ = .ok db₂)
    (hpolicies : (ConfigurationDatabase.Operation.openPolicies true).run db₂ = .ok db₃) :
    Complete db₃ := by
  obtain ⟨targets, hopenTargets, h⟩ := (except_bind_ok_iff _ _ _).mp htargets
  cases h
  obtain ⟨accounts, hopenAccounts, h⟩ := (except_bind_ok_iff _ _ _).mp haccounts
  cases h
  obtain ⟨policies, hopenPolicies, h⟩ := (except_bind_ok_iff _ _ _).mp hpolicies
  cases h
  exact ⟨openTable_expected hopenTargets, openTable_expected hopenAccounts,
    openTable_expected hopenPolicies⟩

/-- No operation changes the columns. -/
theorem Complete.run (h : Complete db) (hrun : op.run db = .ok db') : Complete db' := by
  cases op with
  | openTargets available =>
    obtain ⟨opened, hopen, hrun⟩ := (except_bind_ok_iff _ _ _).mp hrun
    cases hrun
    exact ⟨openTable_expected hopen, h.accounts, h.policies⟩
  | openAccounts available =>
    obtain ⟨opened, hopen, hrun⟩ := (except_bind_ok_iff _ _ _).mp hrun
    cases hrun
    exact ⟨h.targets, openTable_expected hopen, h.policies⟩
  | openPolicies available =>
    obtain ⟨opened, hopen, hrun⟩ := (except_bind_ok_iff _ _ _).mp hrun
    cases hrun
    exact ⟨h.targets, h.accounts, openTable_expected hopen⟩
  | storeTarget available argument =>
    obtain ⟨table, hstored, hrun⟩ := (except_bind_ok_iff _ _ _).mp hrun
    cases hrun
    obtain ⟨target, rows, -, -, rfl⟩ := storeObject_ok hstored
    exact ⟨h.targets.stored rows, h.accounts, h.policies⟩
  | storeAccount available argument =>
    obtain ⟨table, hstored, hrun⟩ := (except_bind_ok_iff _ _ _).mp hrun
    cases hrun
    obtain ⟨account, rows, -, -, rfl⟩ := storeObject_ok hstored
    exact ⟨h.targets, h.accounts.stored rows, h.policies⟩
  | storePolicy available argument =>
    obtain ⟨table, hstored, hrun⟩ := (except_bind_ok_iff _ _ _).mp hrun
    cases hrun
    obtain ⟨policy, rows, -, -, rfl⟩ := storeObject_ok hstored
    exact ⟨h.targets, h.accounts, h.policies.stored rows⟩

theorem configures_ok {file file' : SqliteFile} (h : Configures op file (.ok ()) file') :
    ∃ config, op.run file.config = .ok config ∧ file' = { file with config := config } := by
  unfold Configures at h
  split at h
  · rename_i config hrun
    exact ⟨config, hrun, h.2⟩
  · cases h.1

end Configuration

section Databases

open ConfigurationDatabase AdapterSchemas EnforcedUniqueness CreatedTables

variable {env : Environment} {files files' : FileSystem} {directory : PyStr}
  {vaultKey auditKey : Bytes} {shown : Role → SqliteFile}

/-- The runtime after some configuration operations. -/
theorem Stands.configures {op : ConfigurationDatabase.Operation}
    (h : Stands directory vaultKey auditKey shown files)
    (hanswer : Answers env files (.configure (Role.config.path directory) op) (.ok ()) files') :
    ∃ config, op.run (shown .config).config = .ok config ∧
      Stands directory vaultKey auditKey
        (Function.update shown .config ⟨(shown .config).database, config⟩) files' := by
  obtain ⟨file, hcall, hstands⟩ := h.uses .config hanswer
  obtain ⟨config, hrun, rfl⟩ := configures_ok hcall
  exact ⟨config, hrun, hstands⟩

/-- The databases right after they were created. -/
structure Created (shown : Role → SqliteFile) : Prop where
  auth : Holding .userAuth (shown .auth).database []
  config : Represents (shown .config).config .empty ∧ Complete (shown .config).config
  vault : Holding .vault (shown .vault).database []
  audit : shown .audit = .empty

theorem openLabDatabases_returns (h : Stands directory vaultKey auditKey shown files)
    (hempty : ∀ role, shown role = .empty) :
    Returns (Serves env) (openLabDatabases (.within directory)) files fun _ files' =>
      ∃ shown', Stands directory vaultKey auditKey shown' files' ∧ Created shown' := by
  refine Returns.tryExcept ?_ fun _ _ => returns_raise _ _
  refine returns_ask_bind fun previous files₀ humask => ?_
  rw [humask.2]
  refine Returns.tryFinally (P := fun _ files' => ∃ shown',
    Stands directory vaultKey auditKey shown' files' ∧ Created shown') ?_ ?_
  · refine returns_ask_bind fun _ files₁ hauth => returns_ask_bind fun _ files₂ htargets =>
      returns_ask_bind fun _ files₃ haccounts => returns_ask_bind fun _ files₄ hpolicies =>
      returns_ask fun _ files₅ hvault => ?_
    obtain ⟨authFile, hauth, h₁⟩ := h.uses .auth hauth
    obtain ⟨config₂, hrun₂, h₂⟩ := Stands.configures h₁ htargets
    obtain ⟨config₃, hrun₃, h₃⟩ := Stands.configures h₂ haccounts
    obtain ⟨config₄, hrun₄, h₄⟩ := Stands.configures h₃ hpolicies
    obtain ⟨vaultFile, hvault, h₅⟩ := h₄.uses .vault hvault
    refine ⟨_, h₅, ?_, ?_, ?_, ?_⟩
    · rw [hempty] at hauth
      obtain ⟨db, hholding, hiff⟩ := constructs_empty .userAuth .none fun hrole => by
        cases hrole
      obtain ⟨-, rfl⟩ := (hiff _ _).mp hauth
      simpa using hholding
    · simp only [Function.update_self, ne_eq, reduceCtorEq, not_false_eq_true,
        Function.update_of_ne, hempty] at hrun₂ hrun₃ hrun₄ ⊢
      have hopened := run_represents represents_empty hrun₂
      exact ⟨run_represents (run_represents hopened hrun₃) hrun₄,
        complete_opened hrun₂ hrun₃ hrun₄⟩
    · simp only [ne_eq, reduceCtorEq, not_false_eq_true, Function.update_of_ne, hempty] at hvault
      obtain ⟨db, hholding, hiff⟩ := constructs_empty .vault .none fun hrole => by cases hrole
      obtain ⟨-, rfl⟩ := (hiff _ _).mp hvault
      simpa using hholding
    · simp [hempty]
  · intro _ files₁ hcreated
    refine returns_ask_bind fun _ files₂ humask => returns_pure ?_
    rw [humask.2]
    exact hcreated

/-- The only row is the one of the user, with a hash of the password. -/
def HoldsUser (env : Environment) (user : User) (password : PyStr) (file : SqliteFile) : Prop :=
  ∃ salt encodedHash row, env.argon2.hash salt password = .ok encodedHash ∧
    ConfigurationRows.serializeStored ⟨user, encodedHash⟩ = .ok row ∧
    (∀ v ∈ row, v.fits = true ∧ v.encodes = true) ∧
    Holding .userAuth file.database [row.map PyValue.stored]

/-- The only row is the one of the credential, with an encryption of the plaintext. -/
def HoldsSecret (env : Environment) (key : Bytes) (ref : CredentialRef) (plaintext : Bytes)
    (file : SqliteFile) : Prop :=
  ∃ nonce secret, CredentialVault.encrypt (env.gcm key) nonce plaintext = .ok secret ∧
    (∀ v ∈ vaultParameters ref secret, v.fits = true ∧ v.encodes = true) ∧
    Holding .vault file.database [(vaultParameters ref secret).map PyValue.stored]

/-- What a provisioned runtime holds besides its keys. -/
structure Provisioned (env : Environment) (records : LabRecords) (vaultKey : Bytes)
    (pamPassword targetPassword : PyStr) (shown : Role → SqliteFile) : Prop where
  user : HoldsUser env records.user pamPassword (shown .auth)
  config : Represents (shown .config).config ⟨[records.target], [records.account], [records.policy]⟩
  complete : Complete (shown .config).config
  credential : ∃ targetSecret, encodeUtf8 targetPassword = some targetSecret ∧
    HoldsSecret env vaultKey records.account.credentialRef targetSecret (shown .vault)
  audit : shown .audit = .empty

/-- An operation that succeeds did what its effect says. -/
theorem performs_ok {repository : AdapterSchemas.Repository}
    {operation : EnforcedUniqueness.Operation repository} {file file' : SqliteFile}
    (h : Performs operation file (.ok ()) file') : ∃ db,
      operation.effect RecordedEvents.newest file.database = .ok db ∧
      file' = { file with database := db } := by
  obtain ⟨db, hperform, rfl⟩ := h
  rw [perform_eq] at hperform
  cases heffect : operation.effect RecordedEvents.newest file.database with
  | error e =>
    rw [heffect] at hperform
    cases hperform
  | ok db' =>
    rw [heffect] at hperform
    simp only [Option.some.injEq, Prod.mk.injEq, true_and] at hperform
    rw [hperform]
    exact ⟨db, rfl, rfl⟩

theorem checkHash_ok {salt : Bytes} {password encodedHash : PyStr}
    (h : checkHash ((env.argon2.hashPassword salt password).map .str) = .ok encodedHash) :
    env.argon2.hash salt password = .ok encodedHash ∧
      (py "$argon2id$").isPrefixOf encodedHash = true := by
  unfold Argon2.hashPassword at h
  cases hhash : env.argon2.hash salt password with
  | error e =>
    rw [hhash] at h
    cases h
  | ok text =>
    simp only [hhash, Except.mapError, Except.map, checkHash] at h
    split_ifs at h with hstarts
    cases h
    exact ⟨rfl, hstarts⟩

theorem createUser_performed {file file' : SqliteFile} {salt : Bytes} {user : User}
    {password : PyStr} (hholding : Holding .userAuth file.database [])
    (h : Performs (.createUser user ((env.argon2.hashPassword salt password).map .str))
      file (.ok ())
      file') : HoldsUser env user password file' := by
  obtain ⟨db, heffect, rfl⟩ := performs_ok h
  simp only [Operation.effect, except_bind_ok_iff, mapError_ok_iff] at heffect
  obtain ⟨texts, hserialize, encodedHash, hhash, hinsert⟩ := heffect
  obtain ⟨hhash, hstarts⟩ := checkHash_ok hhash
  have htexts : texts = (user.id, user.username) := by
    unfold ConfigurationRows.serializeUser at hserialize
    split_ifs at hserialize
    exact (Except.ok.inj hserialize).symm
  obtain ⟨hvalues, hholding'⟩ := hholding.insert_ok rfl hinsert
  refine ⟨salt, encodedHash, userParameters user encodedHash, hhash, ?_, hvalues, hholding'⟩
  simp only [ConfigurationRows.serializeStored, hserialize, htexts, hstarts, bind, Except.bind]
  rfl

theorem store_performed {file file' : SqliteFile} {key nonce plaintext : Bytes}
    {ref : CredentialRef} (hholding : Holding .vault file.database [])
    (h : Performs (.store (CredentialVault.encrypt (env.gcm key) nonce plaintext) ref) file
      (.ok ()) file') : HoldsSecret env key ref plaintext file' := by
  obtain ⟨db, heffect, rfl⟩ := performs_ok h
  simp only [Operation.effect, except_bind_ok_iff, mapError_ok_iff, CredentialVault.catchException]
    at heffect
  obtain ⟨secret, hsecret, hinsert⟩ := heffect
  obtain ⟨hvalues, hholding'⟩ := hholding.insert_ok rfl hinsert
  exact ⟨nonce, secret, hsecret, hvalues, hholding'⟩

theorem createUser_returns {user : User} {password : PyStr} (message : String)
    (h : Stands directory vaultKey auditKey shown files)
    (hholding : Holding .userAuth (shown .auth).database []) :
    Returns (Serves env)
      (guarded (ask (.createUser (Role.auth.path directory) user password)) message)
      files fun _ files' => ∃ file, HoldsUser env user password file ∧
        Stands directory vaultKey auditKey (Function.update shown .auth file) files' := by
  refine Returns.tryExcept (returns_ask fun _ files' hanswer => ?_) fun _ _ => returns_raise _ _
  obtain ⟨salt, hanswer⟩ := hanswer
  obtain ⟨file, hcall, hstands⟩ := h.uses .auth hanswer
  exact ⟨file, createUser_performed hholding hcall, hstands⟩

theorem storeCredential_returns {ref : CredentialRef} {plaintext : Bytes} (message : String)
    (h : Stands directory vaultKey auditKey shown files)
    (hholding : Holding .vault (shown .vault).database []) :
    Returns (Serves env)
      (guarded (ask (.storeCredential (Role.vault.path directory) vaultKey ref plaintext)) message)
      files fun _ files' => ∃ file, HoldsSecret env vaultKey ref plaintext file ∧
        Stands directory vaultKey auditKey (Function.update shown .vault file) files' := by
  refine Returns.tryExcept (returns_ask fun _ files' hanswer => ?_) fun _ _ => returns_raise _ _
  obtain ⟨nonce, -, hanswer⟩ := hanswer
  obtain ⟨file, hcall, hstands⟩ := h.uses .vault hanswer
  exact ⟨file, store_performed hholding hcall, hstands⟩

/-- The three stores of the configuration. -/
theorem storeConfiguration_returns {records : LabRecords}
    (h : Stands directory vaultKey auditKey shown files)
    (hempty : Represents (shown .config).config .empty)
    (hcomplete : Complete (shown .config).config) :
    Returns (Serves env) (storeConfiguration (.within directory) records) files fun _ files' =>
      ∃ config, Stands directory vaultKey auditKey
          (Function.update shown .config ⟨(shown .config).database, config⟩) files' ∧
        Represents config ⟨[records.target], [records.account], [records.policy]⟩ ∧
        Complete config := by
  refine Returns.tryExcept ?_ fun _ _ => returns_raise _ _
  refine returns_ask_bind fun _ files₁ htarget => returns_ask_bind fun _ files₂ haccount =>
    returns_ask fun _ files₃ hpolicy => ?_
  obtain ⟨config₁, hrun₁, h₁⟩ := Stands.configures h htarget
  obtain ⟨config₂, hrun₂, h₂⟩ := Stands.configures h₁ haccount
  obtain ⟨config₃, hrun₃, h₃⟩ := Stands.configures h₂ hpolicy
  simp only [Function.update_self, Function.update_idem] at hrun₂ hrun₃ h₃
  refine ⟨config₃, h₃, ?_, ((hcomplete.run hrun₁).run hrun₂).run hrun₃⟩
  exact run_represents (run_represents (run_represents hempty hrun₁) hrun₂) hrun₃

/-- The checks and the keys: no database is touched. -/
theorem keys_stand {files₁ files₂ files₃ : FileSystem}
    (hfresh : ∀ role : Role, files.node (role.path directory) = .absent)
    (hdirectory : files₁.node = files.node)
    (hvault : (files₂.node (vaultKeyPath directory)).key = .ok vaultKey ∧
      OnlyAt (vaultKeyPath directory) files₁ files₂)
    (haudit : (files₃.node (auditKeyPath directory)).key = .ok auditKey ∧
      OnlyAt (auditKeyPath directory) files₂ files₃) :
    Stands directory vaultKey auditKey (fun _ => .empty) files₃ := by
  have hother : vaultKeyPath directory ≠ auditKeyPath directory := path_ne (by decide)
  refine ⟨?_, haudit.1, fun role => ?_⟩
  · rw [haudit.2 _ hother]
    exact hvault.1
  · rw [haudit.2 _ role.path_ne_key.2, hvault.2 _ role.path_ne_key.1, hdirectory, hfresh role]
    rfl

variable (env) in
/-- What a run of `provision_lab` that returns has done in a directory without databases. -/
theorem provisionLab_returns (config : LabProvisioningConfig) (files : FileSystem)
    (hfresh : ∀ role : Role, files.node (role.path config.runtimeDir) = .absent) :
    Returns (Serves env) (provisionLab config) files fun paths files' =>
      paths = .within config.runtimeDir ∧
        ∃ records vaultKey auditKey pamPassword targetPassword shown,
        buildRecords config = .ok records ∧ vaultKey ≠ auditKey ∧
        env.readSecret (py "PAM application user password: ") = .ok (.str pamPassword) ∧
        env.readSecret (py "Target pamadmin SSH password: ") = .ok (.str targetPassword) ∧
        Stands config.runtimeDir vaultKey auditKey shown files' ∧
        Provisioned env records vaultKey pamPassword targetPassword shown := by
  unfold provisionLab
  refine Returns.bind (P := fun records files' =>
    buildRecords config = .ok records ∧ files' = files)
    (returns_ofReply fun records hrecords => ⟨hrecords, rfl⟩) fun records files₀ hbuilt => ?_
  obtain ⟨hrecords, rfl⟩ := hbuilt
  refine (ensurePrivateRuntimeDirectory_keeps _ _).bind fun _ files₁ hdirectory => ?_
  refine (rejectExistingDatabases_keeps _ _).bind fun _ files₂ hreject => ?_
  refine (loadOrCreateKey_returns _ _ _).bind fun vaultKey files₃ hvaultKey => ?_
  refine (loadOrCreateKey_returns _ _ _).bind fun auditKey files₄ hauditKey => ?_
  split_ifs with hkeys
  · exact returns_raise _ _
  have hstands : Stands config.runtimeDir vaultKey auditKey (fun _ => .empty) files₄ :=
    keys_stand hfresh (hreject.trans hdirectory) hvaultKey hauditKey
  refine Returns.bind (P := fun _ files' => files' = files₄) ?_ fun _ files₅ hcipher => ?_
  · exact Returns.tryExcept (returns_ofReply fun _ _ => rfl) fun _ _ => returns_raise _ _
  rw [hcipher]
  refine (readPassword_returns _ _).bind fun pamPassword files₆ hpam => ?_
  rw [hpam.2]
  refine (readPassword_returns _ _).bind fun targetPassword files₇ htarget => ?_
  rw [htarget.2]
  refine (openLabDatabases_returns hstands fun _ => rfl).bind fun _ files₈ hopened => ?_
  obtain ⟨shown, h₈, hcreated⟩ := hopened
  refine (createUser_returns _ h₈ hcreated.auth).bind fun _ files₉ huser => ?_
  obtain ⟨authFile, huser, h₉⟩ := huser
  refine (storeConfiguration_returns h₉ ?_ ?_).bind fun _ files₁₀ hstored => ?_
  · simpa using hcreated.config.1
  · simpa using hcreated.config.2
  obtain ⟨stored, h₁₀, hrepresents, hcomplete⟩ := hstored
  split
  · exact returns_raise _ _
  · rename_i targetSecret hencode
    refine (storeCredential_returns _ h₁₀ ?_).bind fun _ files₁₁ hvault => ?_
    · simpa using hcreated.vault
    · obtain ⟨vaultFile, hsecret, h₁₁⟩ := hvault
      refine returns_pure ⟨rfl, records, vaultKey, auditKey, pamPassword, targetPassword, _,
        hrecords, hkeys, hpam.1, htarget.1, h₁₁, ?_, ?_, ?_, ?_, ?_⟩
      · simpa using huser
      · simpa using hrepresents
      · simpa using hcomplete
      · exact ⟨targetSecret, hencode, by simpa using hsecret⟩
      · simpa using hcreated.audit

end Databases

end PamMvp.LabProvisioning
