import PamMvp.ProvisionedRecords
import PamMvp.RequestRuns

/-!
# Provisioning and access agree

The provisioning tool and the application are two programs over the same files. After the
tool has returned the application starts, its user can authenticate, and the access service
opens a session to the configured target with the typed password, and to nothing else.
-/
namespace PamMvp.ProvisionedAccess
open InteractionPrograms SharedPrograms ServedPrograms TotalPrograms ReturningPrograms PythonText
  DomainModel SessionLifecycle PamCalls ConfigurationDatabase CreatedTables RecordedEvents
  AccessHandling AccessAuditTrail UserAuthentication RuntimeConfiguration RuntimeFiles
  LabProvisioning ApplicationStartup ProvisionedRecords WiredAccess ServedAccess

section Purpose

variable (env : Environment) (services : ApplicationServices) (files : FileSystem)

/-- The databases that the services were built over. -/
def runtime : Runtime :=
  ⟨(files.sqlite services.settings.configDbPath).config, env.gcm services.vaultKey,
    vaultRows (files.sqlite services.settings.vaultDbPath).database⟩

/-- The audit file before the first request. -/
def auditState : AccessState := ⟨(files.sqlite services.settings.auditDbPath).database, []⟩

/-- The call of `authenticate`, with what the caller sees of it. -/
def authenticated (username password : PyStr) :
    Option (Outcome authSignature AuthenticatedPrincipal × List PyStr) :=
  observed services.authentication
    (collaborators env (files.sqlite services.settings.authDbPath).database) username password

/-- The session is opened as it was configured, with the password that was typed. -/
def OpensConfigured (config : LabProvisioningConfig) (targetPassword : PyStr)
    (tr : List PamEvent) : Prop :=
  ∃ target account credential r, ⟨.openSession target account credential, r⟩ ∈ tr ∧
    target.host = config.targetHost ∧ target.port = config.targetPort ∧
    target.expectedHostKey.value = config.hostKeyFingerprint ∧
    account.username = config.accountUsername ∧ decodeUtf8 credential.value = some targetPassword

/-- The vault and the broker are not asked. -/
def Quiet (tr : List PamEvent) : Prop := ∀ ev ∈ tr, isRelease ev.1 = false

/-- How one request is answered: it has a run, and every run ends in one of three ways. -/
structure Handled (config : LabProvisioningConfig) (targetPassword : PyStr) (auditKey : Bytes)
    (w : AccessState) (principal : AuthenticatedPrincipal) (request : AccessRequest)
    (terminal : TerminalIO) (m : Memory) : Prop where
  runs : ∃ tr o m' w', (services.access.handle principal request terminal).Run m tr o m' ∧
    ServedBy (ServedAccess.Answers (runtime env services files) auditKey) w tr w'
  opens : principal.userId = config.userId → request.userId = principal.userId →
    request.targetId = config.targetId →
      EnsuresServed (ServedAccess.Answers (runtime env services files) auditKey)
        (services.access.handle principal request terminal) m w
        fun tr _ _ _ => OpensConfigured config targetPassword tr
  denies : (principal.userId ≠ config.userId ∨ request.targetId ≠ config.targetId) →
    encodable principal.userId = true → encodable request.targetId = true →
      EnsuresServed (ServedAccess.Answers (runtime env services files) auditKey)
        (services.access.handle principal request terminal) m w
        fun tr o _ _ => (∃ reason, o = .ret ⟨⟨.deny, reason⟩, none⟩) ∧ Quiet tr
  raises : (encodable principal.userId = false ∨ encodable request.targetId = false) →
    EnsuresServed (ServedAccess.Answers (runtime env services files) auditKey)
      (services.access.handle principal request terminal) m w
      fun tr o _ _ => (∃ e, o = .raise e) ∧ Quiet tr

/-- The services do what the configuration and the two passwords say, while the numbers of
the audit trail last. -/
structure Agrees (config : LabProvisioningConfig) (pamPassword targetPassword : PyStr) : Prop where
  authenticates : ∃ principal, principal.userId = config.userId ∧
    principal.username = config.username ∧
    authenticated env services files config.username pamPassword =
      some (.ret principal, [pamPassword])
  handles : ∃ auditKey, (files.node services.settings.auditIntegrityKeyPath).key = .ok auditKey ∧
    ∀ past w, ServedBy (ServedAccess.Answers (runtime env services files) auditKey)
      (auditState services files) past w → past.length + 2 < 2 ^ 63 →
      ∀ principal request terminal m, request.postInit = .ok request →
        Handled env services files config targetPassword auditKey w principal request terminal m

end Purpose

section Agreement

variable {env : Environment} {config : LabProvisioningConfig} {records : LabRecords}
  {vaultKey auditKey : Bytes} {pamPassword targetPassword : PyStr} {shown : Role → SqliteFile}
  {settings : RuntimeSettings} {seconds : PyFloat} {services : ApplicationServices}
  {files : FileSystem}

theorem sqlite_eq {directory : PyStr} (h : Stands directory vaultKey auditKey shown files)
    (role : Role) : files.sqlite (role.path directory) = shown role := by
  rw [FileSystem.sqlite, h.database role]
  rfl

/-- The ids of the configuration have an encoding, because they were stored. -/
theorem configured_encodable (hfollows : Follows config records)
    (hprovisioned : Provisioned env records vaultKey pamPassword targetPassword shown) :
    encodable config.userId = true ∧ encodable config.targetId = true := by
  constructor
  · obtain ⟨salt, encodedHash, row, -, hrow, hvalues, -⟩ := hprovisioned.user
    obtain rfl := serializeStored_row hrow
    have hid := (hvalues (.str records.user.id) (by simp [EnforcedUniqueness.userParameters])).2
    rw [hfollows.user] at hid
    exact hid
  · have hvalid := (hprovisioned.config.target_valid (List.mem_singleton_self records.target)).1
    rwa [hfollows.targetId] at hvalid

theorem runtime_started (env : Environment) {directory : PyStr}
    (hsettings : runtimeSettings directory seconds = .ok settings)
    (h : Started settings directory vaultKey auditKey shown services files) :
    runtime env services files = runtimeOf env vaultKey shown ∧
      (files.node services.settings.auditIntegrityKeyPath).key = .ok auditKey ∧
      files.sqlite services.settings.authDbPath = shown .auth ∧
      Recording 0 (auditState services files) := by
  obtain ⟨rfl, rfl, auditFile, hholding, hstands⟩ := h
  obtain ⟨hauth, hconfig, hvault, haudit, -, hauditKey⟩ := runtimeSettings_paths hsettings
  have hshown (role : Role) := sqlite_eq hstands role
  refine ⟨?_, ?_, ?_, ?_⟩
  · rw [runtime, runtimeOf, hconfig, hvault, hshown, hshown]
    simp
  · rw [hauditKey]
    exact hstands.auditKey
  · rw [hauth, hshown]
    simp
  · rw [auditState, haudit, hshown, Function.update_self]
    exact ⟨[], hholding, .nil⟩

/-- One request, whatever was asked before. -/
theorem handled_started {rt : Runtime} {plaintext : Bytes} {n : ℕ} {w : AccessState}
    (hrt : runtime env services files = rt)
    (hholds : Holds rt (storesOf records) (credentialsOf records plaintext))
    (hfollows : Follows config records) (hencode : encodeUtf8 targetPassword = some plaintext)
    (hids : encodable config.userId = true ∧ encodable config.targetId = true)
    (hkey : auditKey.length = AuditEncoding.macSize) (hrecording : Recording n w)
    (hroom : (n : ℤ) + 2 < 2 ^ 63) (principal : AuthenticatedPrincipal) {request : AccessRequest}
    (terminal : TerminalIO) (m : Memory) (hrequest : request.postInit = .ok request) :
    Handled env services files config targetPassword auditKey w principal request terminal m := by
  have hserved (hprincipal : encodable principal.userId = true)
      (htarget : encodable request.targetId = true) :
      EnsuresServed (ServedAccess.Answers rt auditKey)
        (services.access.handle principal request terminal) m w
        fun tr o _ _ => Ends tr o
          (finding (storesOf records) (credentialsOf records plaintext) request principal) :=
    handle_served _ _ terminal hholds hkey hrecording hroom principal hrequest hprincipal htarget m
  constructor
  · exact RequestRuns.handle_runs _ _ terminal principal request m w
  · intro hprincipal huser htarget
    rw [hrt]
    refine (hserved (hprincipal ▸ hids.1) (htarget ▸ hids.2)).mono fun tr o m' w' hends => ?_
    rw [finding_configured hfollows huser.symm (huser.trans hprincipal) htarget] at hends
    obtain ⟨r, hopened⟩ := hends
    exact ⟨_, _, _, r, hopened, hfollows.host, hfollows.port, hfollows.pin,
      hfollows.accountUsername, (decodeUtf8_eq_some_iff plaintext targetPassword).mpr hencode⟩
  · intro hother hprincipal htarget
    rw [hrt]
    obtain ⟨reason, hfinding⟩ := finding_other hfollows plaintext hother
    refine (hserved hprincipal htarget).mono fun tr o m' w' hends => ?_
    rw [hfinding] at hends
    exact ⟨⟨reason, hends.1⟩, hends.2.2⟩
  · intro hnone
    rw [hrt]
    exact handle_unencodable_served _ _ terminal hholds hkey hrecording principal hnone m

/-- The application over a runtime that was provisioned. -/
theorem agrees_started (hreliable : env.Reliable)
    (hsettings : runtimeSettings config.runtimeDir seconds = .ok settings)
    (hfollows : Follows config records)
    (hprovisioned : Provisioned env records vaultKey pamPassword targetPassword shown)
    (h : Started settings config.runtimeDir vaultKey auditKey shown services files) :
    Agrees env services files config pamPassword targetPassword := by
  obtain ⟨hrt, hauditKey, hauth, hrecording⟩ := runtime_started env hsettings h
  obtain ⟨plaintext, hencode, hholds⟩ := holds_provisioned hreliable hprovisioned
  have hkey : auditKey.length = AuditEncoding.macSize := (key_regular hauditKey).2
  constructor
  · have huser := hprovisioned.user
    rw [hfollows.user] at huser
    refine ⟨⟨config.userId, config.username, hfollows.userId, hfollows.username⟩, rfl, rfl, ?_⟩
    rw [authenticated, hauth]
    exact authenticate_created hreliable huser rfl hfollows.userId hfollows.username _
  · refine ⟨auditKey, hauditKey, fun past w hpast hroom principal request terminal m hrequest => ?_⟩
    obtain ⟨n, hn, hrecorded⟩ := served_recording hkey hrecording hpast
    exact handled_started hrt hholds hfollows hencode (configured_encodable hfollows hprovisioned)
      hkey hrecorded (by omega) principal terminal m hrequest

/-- After the tool has returned in a directory without databases, the application starts
with the settings that are derived from the directory, and it agrees with what was
configured and typed. -/
theorem provisioned_access_agrees (hreliable : env.Reliable) (config : LabProvisioningConfig)
    {files files' : FileSystem} {paths : LabRuntimePaths}
    (hfresh : ∀ role : Role, files.node (role.path config.runtimeDir) = .absent)
    (hrun : RunsOn (Serves env) (provisionLab config) files (.ret paths) files')
    (hsettings : runtimeSettings config.runtimeDir seconds = .ok settings) :
    ∃ pamPassword targetPassword,
      env.readSecret (py "PAM application user password: ") = .ok (.str pamPassword) ∧
      env.readSecret (py "Target pamadmin SSH password: ") = .ok (.str targetPassword) ∧
      TotalOn (RuntimeFiles.Answers env) (fun o files'' => ∃ services, o = .ret services ∧
        services.settings = settings ∧
        Agrees env services files'' config pamPassword targetPassword)
        (buildApplication settings) files' := by
  obtain ⟨-, records, vaultKey, auditKey, pamPassword, targetPassword, shown, hrecords, hkeys, hpam,
    htarget, hstands, hprovisioned⟩ :=
      provisionLab_returns env config files hfresh paths files' hrun
  refine ⟨pamPassword, targetPassword, hpam, htarget, ?_⟩
  refine (buildApplication_total hreliable hsettings hstands hkeys hprovisioned).mono ?_
  intro o files'' hstarted
  obtain ⟨services, rfl, hstarted⟩ := hstarted
  exact ⟨services, rfl, hstarted.same_settings, agrees_started hreliable hsettings
    (buildRecords_follows hrecords) hprovisioned hstarted⟩

end Agreement

section Example

open AdapterSchemas EnforcedUniqueness CredentialVault

def exampleGcm : AesGcm where
  encrypt _ data _ := .ok (data ++ List.replicate 16 0)
  decrypt _ data _ :=
    if 16 ≤ data.length then .ok (data.take (data.length - 16)) else .error (raised .invalidTag [])

def exampleArgon2 : Argon2 where
  hash _ password :=
    if encodable password then .ok (py "$argon2id$" ++ password)
    else .error (raised .unicodeEncodeError [])
  verify encodedHash password := .ok (encodedHash = py "$argon2id$" ++ password)
  verify_exception _ _ _ h := by cases h

def exampleEnv : Environment where
  gcm _ := exampleGcm
  argon2 := exampleArgon2
  readSecret prompt :=
    if prompt = py "PAM application user password: " then .ok (.str (py "pam-password"))
    else .ok (.str (py "target-password"))

def exampleConfig : LabProvisioningConfig := { runtimeDir := py "runtime" }

def emptyFiles : FileSystem := ⟨fun _ => .absent, fun _ => .absent, id⟩

def ioFailure : PyExn := raised .osError []

/-- A call of an adapter that answers in one way, if it answers. -/
def used (files : FileSystem) (path : RuntimePath)
    (call : SqliteFile → Option (Except PyExn Unit × SqliteFile)) :
    Except PyExn Unit × FileSystem :=
  match (files.node path).database? with
  | none => (.error ioFailure, files)
  | some file =>
    match call file with
    | none => (.error ioFailure, files)
    | some (r, file') => (r, files.write path file')

def constructed (repository : AdapterSchemas.Repository) (file : SqliteFile) :
    Option (Except PyExn Unit × SqliteFile) :=
  (execOn (AdapterSchemas.answer .none) repository.construct ⟨file.database, none⟩).map
    fun out => (result out.1, { file with database := out.2.committed })

def configured (operation : ConfigurationDatabase.Operation) (file : SqliteFile) :
    Option (Except PyExn Unit × SqliteFile) :=
  match operation.run file.config with
  | .ok config => some (.ok (), { file with config := config })
  | .error e => some (.error e, file)

def performed {repository : AdapterSchemas.Repository}
    (operation : EnforcedUniqueness.Operation repository) (file : SqliteFile) :
    Option (Except PyExn Unit × SqliteFile) :=
  (operation.perform newest file.database).map fun out => (out.1, { file with database := out.2 })

/-- A server for the provisioning of an empty directory. The first key consists of ones, and
the second one of twos. -/
def exampleServe (files : FileSystem) :
    (c : RuntimeCall) → Reply runtimeSignature c × FileSystem
  | .isSymlink path => (.ok (files.directory path).isLink, files)
  | .directoryExists path =>
    match files.directory path with
    | .absent => (.ok false, files)
    | _ => (.error ioFailure, files)
  | .mkdir path _ =>
    match files.directory path, parents path with
    | .absent, [] => (.ok (), files.putDirectory path (.directory 0o755))
    | _, _ => (.error ioFailure, files)
  | .openDirectory path =>
    match files.directory path with
    | .directory _ => (.ok (.directory path), files)
    | _ => (.error ioFailure, files)
  | .fchmod (.directory path) mode =>
    (.ok (), files.putDirectory path ((files.directory path).chmod mode))
  | .fchmod (.file path) mode => (.ok (), files.put path ((files.node path).chmod mode))
  | .fstat (.directory path) => (.ok (files.directory path).stMode, files)
  | .fstat (.file path) => (.ok (files.node path).stMode, files)
  | .close _ => (.ok (), files)
  | .fileExists path =>
    match files.node path with
    | .absent => (.ok false, files)
    | _ => (.error ioFailure, files)
  | .createKey path =>
    match files.node path with
    | .absent => (.ok (.file path), files.put path (.regular 0o644 (.bytes [])))
    | _ => (.error ioFailure, files)
  | .tokenBytes count =>
    (.ok (List.replicate count
      (if (files.node (vaultKeyPath exampleConfig.runtimeDir)).key.isOk then 2 else 1)), files)
  | .writeKey (.file path) key =>
    match files.node path with
    | .regular permissions _ => (.ok (), files.put path (.regular permissions (.bytes key)))
    | _ => (.error ioFailure, files)
  | .getKey path => ((files.node path).key, files)
  | .readSecret prompt => (exampleEnv.readSecret prompt, files)
  | .umask _ => (.ok 0o022, files)
  | .openUserAuth path => used files path (constructed .userAuth)
  | .openVault path => used files path (constructed .vault)
  | .configure path operation => used files path (configured operation)
  | .createUser path user password => used files path (performed (.createUser user
      ((exampleEnv.argon2.hashPassword [] password).map .str)))
  | .storeCredential path key ref plaintext => used files path (performed (.store
      (encrypt (exampleEnv.gcm key) (List.replicate 12 7) plaintext) ref))
  | _ => (.error ioFailure, files)

theorem used_serves {files : FileSystem} {path : RuntimePath}
    {call : SqliteFile → Option (Except PyExn Unit × SqliteFile)}
    {relation : SqliteFile → Except PyExn Unit → SqliteFile → Prop}
    (h : ∀ file r file', call file = some (r, file') → relation file r file') :
    files.Uses path relation (used files path call).1 (used files path call).2 ∨
      ∃ e, (used files path call).1 = .error e := by
  unfold used FileSystem.Uses
  cases (files.node path).database? with
  | none => exact .inr ⟨_, rfl⟩
  | some file =>
    cases hcall : call file with
    | none => exact .inr ⟨ioFailure, by simp [hcall]⟩
    | some out =>
      exact .inl ⟨out.2, by simpa [hcall] using h file out.1 out.2 hcall, by simp [hcall]⟩

theorem constructed_serves {repository : AdapterSchemas.Repository} (file : SqliteFile)
    (r : Except PyExn Unit) (file' : SqliteFile)
    (h : constructed repository file = some (r, file')) :
    Constructs repository .none file r file' := by
  obtain ⟨out, hexec, hout⟩ := Option.map_eq_some_iff.mp h
  cases hout
  exact ⟨out.1, out.2, hexec, rfl, rfl⟩

theorem configured_serves {operation : ConfigurationDatabase.Operation} (file : SqliteFile)
    (r : Except PyExn Unit) (file' : SqliteFile) (h : configured operation file = some (r, file')) :
    Configures operation file r file' := by
  unfold configured at h
  unfold Configures
  cases hrun : operation.run file.config with
  | ok config =>
    rw [hrun] at h
    cases h
    exact ⟨rfl, rfl⟩
  | error e =>
    rw [hrun] at h
    cases h
    exact ⟨rfl, rfl⟩

theorem performed_serves {repository : AdapterSchemas.Repository}
    {operation : EnforcedUniqueness.Operation repository} (file : SqliteFile)
    (r : Except PyExn Unit) (file' : SqliteFile) (h : performed operation file = some (r, file')) :
    Performs operation file r file' := by
  obtain ⟨out, hperform, hout⟩ := Option.map_eq_some_iff.mp h
  cases hout
  exact ⟨out.2, hperform, rfl⟩

theorem fails_ioFailure {files : FileSystem} {c : RuntimeCall} (hclose : ∀ d, c ≠ .close d) :
    Fails files c (.error ioFailure) files := by
  refine ⟨ioFailure, rfl, ?_⟩
  cases c with
  | close descriptor => exact absurd rfl (hclose descriptor)
  | createKey path => exact fun h => by cases h
  | _ => trivial

theorem exampleServe_serves (files : FileSystem) (c : RuntimeCall) :
    RuntimeFiles.Serves exampleEnv files c (exampleServe files c).1 (exampleServe files c).2 := by
  cases c with
  | isSymlink path => exact .inl ⟨rfl, rfl⟩
  | directoryExists path =>
    simp only [exampleServe]
    split
    · rename_i hnode
      exact .inl ⟨⟨false, rfl, by rw [hnode]; rfl⟩, rfl⟩
    · exact .inr (fails_ioFailure (by simp))
  | mkdir path mode =>
    simp only [exampleServe]
    split
    · rename_i hnode hparents
      refine .inl ?_
      rw [RuntimeFiles.Answers, hparents, Makes, hnode]
      exact ⟨.ok (), files, ⟨rfl, rfl⟩, rfl, 0o755, rfl⟩
    · exact .inr (fails_ioFailure (by simp))
  | openDirectory path =>
    simp only [exampleServe]
    split
    · rename_i hnode
      refine .inl ?_
      simp only [RuntimeFiles.Answers, hnode, and_self]
    · exact .inr (fails_ioFailure (by simp))
  | fchmod descriptor mode => cases descriptor <;> exact .inl ⟨rfl, rfl⟩
  | fstat descriptor => cases descriptor <;> exact .inl ⟨rfl, rfl⟩
  | close descriptor => exact .inl ⟨rfl, rfl⟩
  | fileExists path =>
    simp only [exampleServe]
    split
    · rename_i hnode
      exact .inl ⟨⟨false, rfl, by rw [hnode]; rfl⟩, rfl⟩
    · exact .inr (fails_ioFailure (by simp))
  | createKey path =>
    simp only [exampleServe]
    split
    · rename_i hnode
      refine .inl ?_
      simp only [RuntimeFiles.Answers, hnode, true_and]
      exact ⟨_, rfl⟩
    · exact .inr (fails_ioFailure (by simp))
  | tokenBytes count => exact .inl ⟨⟨_, rfl, List.length_replicate⟩, rfl⟩
  | writeKey descriptor key =>
    cases descriptor with
    | directory path => exact .inr (fails_ioFailure (by simp))
    | file path =>
      simp only [exampleServe]
      split
      · rename_i hnode
        refine .inl ?_
        simp only [RuntimeFiles.Answers, hnode, and_self]
      · exact .inr (fails_ioFailure (by simp))
  | getKey path => exact .inl ⟨rfl, rfl⟩
  | readSecret prompt => exact .inl ⟨rfl, rfl⟩
  | umask mode => exact .inl ⟨⟨_, rfl⟩, rfl⟩
  | openUserAuth path =>
    rcases @used_serves files path _ _ (@constructed_serves .userAuth) with huses | ⟨e, he⟩
    · exact .inl huses
    · exact .inr ⟨e, he, trivial⟩
  | openVault path =>
    rcases @used_serves files path _ _ (@constructed_serves .vault) with huses | ⟨e, he⟩
    · exact .inl huses
    · exact .inr ⟨e, he, trivial⟩
  | configure path operation =>
    rcases @used_serves files path _ _ (@configured_serves operation) with huses | ⟨e, he⟩
    · exact .inl huses
    · exact .inr ⟨e, he, trivial⟩
  | createUser path user password =>
    rcases @used_serves files path _ _ (@performed_serves .userAuth (.createUser user
      ((exampleEnv.argon2.hashPassword [] password).map .str))) with huses | ⟨e, he⟩
    · exact .inl ⟨[], huses⟩
    · exact .inr ⟨e, he, trivial⟩
  | storeCredential path key ref plaintext =>
    rcases @used_serves files path _ _ (@performed_serves .vault (.store
      (encrypt (exampleEnv.gcm key) (List.replicate 12 7) plaintext) ref)) with huses | ⟨e, he⟩
    · exact .inl ⟨List.replicate 12 7, List.length_replicate, huses⟩
    · exact .inr ⟨e, he, trivial⟩
  | _ => exact .inr (fails_ioFailure (by simp))

theorem example_provisioned : ∃ paths files',
    RunsOn (RuntimeFiles.Serves exampleEnv) (provisionLab exampleConfig) emptyFiles (.ret paths)
      files' := by
  have hreturns : ((execOn exampleServe (provisionLab exampleConfig) emptyFiles).map fun out =>
      match out.1 with
      | .ret _ => true
      | .raise _ => false) = some true := by decide +kernel
  obtain ⟨out, hexec, hout⟩ := Option.map_eq_some_iff.mp hreturns
  obtain ⟨o, files'⟩ := out
  cases o with
  | ret paths => exact ⟨paths, files', runsOn_execOn exampleServe_serves hexec⟩
  | raise e => cases hout

theorem exampleEnv_reliable : exampleEnv.Reliable where
  decrypts key nonce plaintext ciphertext h := by
    cases h
    simp [exampleEnv, exampleGcm]
  verifies salt password encodedHash h := by
    simp only [exampleEnv, exampleArgon2] at h
    split_ifs at h
    cases h
    simp [exampleEnv, exampleArgon2]
  hashes salt token h := by
    have hencodes : encodable token = true := by
      refine (encodable_iff token).mpr fun c hc => ?_
      have hlt := List.all_eq_true.mp h c hc
      simp only [decide_eq_true_eq] at hlt
      simp only [isSurrogate, Bool.and_eq_false_iff, decide_eq_false_iff_not]
      omega
    exact ⟨py "$argon2id$" ++ token, if_pos hencodes⟩

theorem example_settings : ∃ settings,
    runtimeSettings exampleConfig.runtimeDir (.finite 60) = .ok settings := by
  have hok : (runtimeSettings exampleConfig.runtimeDir (.finite 60)).isOk = true := by
    decide +kernel
  cases hsettings : runtimeSettings exampleConfig.runtimeDir (.finite 60) with
  | ok settings => exact ⟨settings, rfl⟩
  | error e =>
    rw [hsettings] at hok
    cases hok

theorem example_access_agrees : ∃ paths files' settings,
    RunsOn (Serves exampleEnv) (provisionLab exampleConfig) emptyFiles (.ret paths) files' ∧
    runtimeSettings exampleConfig.runtimeDir (.finite 60) = .ok settings ∧
    ∃ pamPassword targetPassword,
      exampleEnv.readSecret (py "PAM application user password: ") = .ok (.str pamPassword) ∧
      exampleEnv.readSecret (py "Target pamadmin SSH password: ") = .ok (.str targetPassword) ∧
      TotalOn (RuntimeFiles.Answers exampleEnv) (fun o files'' => ∃ services, o = .ret services ∧
        services.settings = settings ∧
        Agrees exampleEnv services files'' exampleConfig pamPassword targetPassword)
        (buildApplication settings) files' := by
  obtain ⟨paths, files', hrun⟩ := example_provisioned
  obtain ⟨settings, hsettings⟩ := example_settings
  exact ⟨paths, files', settings, hrun, hsettings,
    provisioned_access_agrees exampleEnv_reliable exampleConfig (fun _ => rfl) hrun hsettings⟩

/-- The id of the target is a lone surrogate. -/
def surrogateRequest : AccessRequest :=
  ⟨py "request-1", exampleConfig.userId, [0xD800], .openPrivilegedSession,
    .utc 0 DateTimes.yearOne_lt⟩

/-- The configured user asks for another target, and the request is not answered with a
denial. -/
theorem surrogate_target_raises : ∃ paths files' settings services files'' auditKey principal,
    RunsOn (Serves exampleEnv) (provisionLab exampleConfig) emptyFiles (.ret paths) files' ∧
    runtimeSettings exampleConfig.runtimeDir (.finite 60) = .ok settings ∧
    RunsOn (RuntimeFiles.Answers exampleEnv) (buildApplication settings) files' (.ret services)
      files'' ∧
    (files''.node services.settings.auditIntegrityKeyPath).key = .ok auditKey ∧
    authenticated exampleEnv services files'' exampleConfig.username (py "pam-password") =
      some (.ret principal, [py "pam-password"]) ∧
    surrogateRequest.postInit = .ok surrogateRequest ∧
    principal.userId = surrogateRequest.userId ∧
    surrogateRequest.targetId ≠ exampleConfig.targetId ∧
    ∃ tr e m w, (services.access.handle principal surrogateRequest portTerminal).Run
        AccessAuditTrail.exampleMemory tr (.raise e) m ∧
      ServedBy (ServedAccess.Answers (runtime exampleEnv services files'') auditKey)
        (auditState services files'') tr w := by
  obtain ⟨paths, files', hrun⟩ := example_provisioned
  obtain ⟨settings, hsettings⟩ := example_settings
  obtain ⟨-, records, vaultKey, auditKey, pamPassword, targetPassword, shown, hrecords, hkeys, hpam,
    htarget, hstands, hprovisioned⟩ := provisionLab_returns exampleEnv exampleConfig emptyFiles
      (fun _ => rfl) paths files' hrun
  have hstarts := buildApplication_total exampleEnv_reliable hsettings hstands hkeys hprovisioned
  obtain ⟨o, files'', hstart⟩ := hstarts.runs
  obtain ⟨services, rfl, hstarted⟩ := hstarts.ensures o files'' hstart
  obtain ⟨⟨principal, hid, -, hauthenticated⟩, auditKey', hkey, hhandles⟩ :=
    agrees_started exampleEnv_reliable hsettings (buildRecords_follows hrecords)
      hprovisioned hstarted
  cases hpam
  have hpostInit : surrogateRequest.postInit = .ok surrogateRequest := by rfl
  have hhandled := hhandles [] _ (.nil _) (by decide) principal surrogateRequest portTerminal
    AccessAuditTrail.exampleMemory hpostInit
  obtain ⟨tr, o, m, w, hrequest, hserved⟩ := hhandled.runs
  obtain ⟨⟨e, rfl⟩, -⟩ := hhandled.raises (.inr (by decide)) tr o m hrequest w hserved
  exact ⟨paths, files', settings, services, files'', auditKey', principal, hrun, hsettings, hstart,
    hkey, hauthenticated, hpostInit, hid, by decide, tr, e, m, w, hrequest, hserved⟩

end Example

end PamMvp.ProvisionedAccess
