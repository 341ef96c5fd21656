import PamMvp.FaultyServers
import PamMvp.ProvisioningSafety
import PamMvp.VerificationTool

/-!
# The life of a deployment

After provisioning, the command is run again and again: applications start and stop, several
answer requests at the same time, the chain is verified, and the tool may be run once more in
the same directory. Any of their calls can fail. Through all of that the users, the
configuration and the vault stay as they were provisioned and the audit trail only grows, so
an application can be started at any time, and it answers as it was configured.
-/
namespace PamMvp.DeploymentLifetime
open InteractionPrograms SharedPrograms ServedPrograms TotalPrograms ReturningPrograms
  PreservingPrograms FaultyServers PythonText DomainModel SqliteValues CreatedTables
  RecordedEvents HashChains AuditEncoding RecordedChains RuntimeConfiguration RuntimeFiles
  LabProvisioning ApplicationStartup ProvisionedRecords PamCalls WiredAccess ServedAccess
open ProvisionedAccess (runtime authenticated Handled sqlite_eq configured_encodable
  handled_started exampleEnv exampleConfig emptyFiles example_provisioned exampleEnv_reliable)
open AuditVerification (recordRow)
open TableConstraints (StoredTable)
open VerificationTool (ToolCall ToolState auditPath)

section System

/-- The files, the ids in use and the applications that are running. -/
structure Deployment where
  files : FileSystem
  used : List PyStr
  running : List ApplicationServices

/-- A file after `ensure_owner_only_database_file`. -/
def secured : Node → Node
  | .absent => .regular 0o600 (.bytes [])
  | .regular _ content => .regular 0o600 content
  | node => node

/-- A call that fails on the way has at most made its database private: SQLite commits a
transaction as a whole. -/
def Partly (files : FileSystem) (c : RuntimeCall) (files' : FileSystem) : Prop :=
  files' = files ∨ ∃ path, databasePath c = some path ∧
    files' = files.put path (secured (files.node path))

def ToolPartly (s : ToolState) : ToolCall → ToolState → Prop
  | .openAudit path keyPath, s' => ∃ files', Partly s.files (.openAudit path keyPath) files' ∧
    s' = { s with files := files' }
  | _, s' => s' = s

abbrev FileServer (env : Environment) : Server runtimeSignature FileSystem :=
  Faulty (RuntimeFiles.Answers env) Partly

abbrev ToolServer (env : Environment) : Server VerificationTool.toolSignature ToolState :=
  Faulty (VerificationTool.Answers env) ToolPartly

abbrev AccessServer (rt : Runtime) (key : Bytes) : Server pamSignature AccessState :=
  Faulty (ServedAccess.Answers rt key) fun w _ w' => w' = w

/-- What an application sees of the audit trail. -/
def accessState (d : Deployment) (services : ApplicationServices) : AccessState :=
  ⟨(d.files.sqlite services.settings.auditDbPath).database, d.used⟩

/-- The application that a start returned. -/
def started : Outcome runtimeSignature ApplicationServices → List ApplicationServices
  | .ret services => [services]
  | .raise _ => []

/-- The steps of a deployment: a run of a tool, a start, one call of a running application,
and an application that ends. -/
inductive Step (env : Environment) (directory : PyStr) : Deployment → Deployment → Prop where
  | provision {d : Deployment} {config : LabProvisioningConfig}
    {o : Outcome runtimeSignature LabRuntimePaths} {files' : FileSystem}
    (hdirectory : config.runtimeDir = directory)
    (h : RunsOn (FileServer env) (provisionLab config) d.files o files') :
    Step env directory d { d with files := files' }
  | start {d : Deployment} {seconds : PyFloat} {settings : RuntimeSettings}
    {o : Outcome runtimeSignature ApplicationServices} {files' : FileSystem}
    (hsettings : runtimeSettings directory seconds = .ok settings)
    (h : RunsOn (FileServer env) (buildApplication settings) d.files o files') :
    Step env directory d ⟨files', d.used, started o ++ d.running⟩
  | call {d : Deployment} {services : ApplicationServices} {key : Bytes} {c : PamCall}
    {r : Reply pamSignature c} {w : AccessState} (hrunning : services ∈ d.running)
    (hkey : (d.files.node services.settings.auditIntegrityKeyPath).key = .ok key)
    (h : AccessServer (runtime env services d.files) key (accessState d services) c r w) :
    Step env directory d
      ⟨VerificationTool.servedFiles services d.files w, w.used, d.running⟩
  | verify {d : Deployment} {o : Outcome VerificationTool.toolSignature ℕ} {s : ToolState}
    (h : RunsOn (ToolServer env) (VerificationTool.main directory) ⟨d.files, []⟩ o s) :
    Step env directory d { d with files := s.files }
  | exit {d : Deployment} {running : List ApplicationServices} (h : running ⊆ d.running) :
    Step env directory d { d with running := running }

abbrev Life (env : Environment) (directory : PyStr) : Deployment → Deployment → Prop :=
  Relation.ReflTransGen (Step env directory)

/-- The rows of the audit trail. -/
def auditRows (directory : PyStr) (files : FileSystem) : List (List SqlValue) :=
  match (files.sqlite (Role.audit.path directory)).database.table?
    AdapterSchemas.Repository.audit.tableName with
  | none => []
  | some t => t.rows

end System

section Site

/-- What provisioning left behind in a directory. -/
structure Site where
  directory : PyStr
  vaultKey : Bytes
  auditKey : Bytes
  shown : Role → SqliteFile

/-- Every table but the one of the audit is there. -/
structure Site.Ready (site : Site) : Prop where
  auth : ∃ rows, Holding .userAuth (site.shown .auth).database rows
  vault : ∃ rows, Holding .vault (site.shown .vault).database rows
  config : Complete (site.shown .config).config
  distinct : site.vaultKey ≠ site.auditKey

/-- The site with this audit database. -/
def Site.Shows (site : Site) (file : SqliteFile) (files : FileSystem) : Prop :=
  Stands site.directory site.vaultKey site.auditKey (Function.update site.shown .audit file) files

/-- No audit database yet, or one with the chain of these records. -/
inductive AuditFile (key : Bytes) (records : List ChainRecord) : SqliteFile → Prop where
  | missing (h : records = []) : AuditFile key records .empty
  | chain {file : SqliteFile} (h : RecordedChain key records file.database) :
    AuditFile key records file

def Site.Kept (site : Site) (records : List ChainRecord) (files : FileSystem) : Prop :=
  ∃ file, AuditFile site.auditKey records file ∧ site.Shows file files

def Site.Created (site : Site) (records : List ChainRecord) (files : FileSystem) : Prop :=
  ∃ file, RecordedChain site.auditKey records file.database ∧ site.Shows file files

/-- The records stay as they are. -/
structure Conserves (site : Site) (files files' : FileSystem) : Prop where
  kept : ∀ records, site.Kept records files → site.Kept records files'
  created : ∀ records, site.Created records files → site.Created records files'

instance (site : Site) : IsPreorder FileSystem (Conserves site) where
  refl _ := ⟨fun _ h => h, fun _ h => h⟩
  trans _ _ _ h h' :=
    ⟨fun records hkept => h'.kept records (h.kept records hkept),
      fun records hcreated => h'.created records (h.created records hcreated)⟩

variable {site : Site} {files files' : FileSystem} {file : SqliteFile}
  {records : List ChainRecord}

theorem Site.Created.kept (h : site.Created records files) : site.Kept records files := by
  obtain ⟨file, hchain, hshows⟩ := h
  exact ⟨file, .chain hchain, hshows⟩

theorem conserves_shows (h : ∀ file, site.Shows file files → site.Shows file files') :
    Conserves site files files' := by
  constructor
  · intro records hkept
    obtain ⟨file, haudit, hshows⟩ := hkept
    exact ⟨file, haudit, h file hshows⟩
  · intro records hcreated
    obtain ⟨file, hchain, hshows⟩ := hcreated
    exact ⟨file, hchain, h file hshows⟩

theorem conserves_same (h : files' = files) : Conserves site files files' := by
  rw [h]
  exact refl_of (Conserves site) files

/-- Only the files count. -/
theorem conserves_node (h : files'.node = files.node) : Conserves site files files' := by
  refine conserves_shows fun file hshows => ?_
  obtain ⟨hvault, haudit, hdatabase⟩ := hshows
  refine ⟨?_, ?_, fun role => ?_⟩
  · rw [h]
    exact hvault
  · rw [h]
    exact haudit
  · rw [h]
    exact hdatabase role

theorem Site.Shows.put (h : site.Shows file files) (role : Role) {node : Node}
    (hnode : node.database? = (files.node (role.path site.directory)).database?) :
    site.Shows file (files.put (role.path site.directory) node) := by
  refine ⟨?_, ?_, fun other => ?_⟩
  · rw [files.node_put_of_ne _ role.path_ne_key.1.symm]
    exact h.vaultKey
  · rw [files.node_put_of_ne _ role.path_ne_key.2.symm]
    exact h.auditKey
  · by_cases hrole : other = role
    · rw [hrole, FileSystem.node_put_self, hnode]
      exact h.database role
    · have hpath : other.path site.directory ≠ role.path site.directory :=
        path_ne fun hname => hrole (Role.fileName_injective hname)
      rw [files.node_put_of_ne _ hpath]
      exact h.database other

theorem secured_database (node : Node) : (secured node).database? = node.database? := by
  cases node <;> rfl

/-- A call that fails early on a database of the site. -/
theorem partly_conserves {c : RuntimeCall}
    (hpath : ∀ path, databasePath c = some path → ∃ role : Role, path = role.path site.directory)
    (h : Partly files c files') : Conserves site files files' := by
  rcases h with hsame | ⟨path, hdatabase, rfl⟩
  · exact conserves_same hsame
  · obtain ⟨role, rfl⟩ := hpath path hdatabase
    exact conserves_shows fun file hshows => hshows.put role (secured_database _)

end Site

section Startup

variable {env : Environment} {site : Site} {files files' : FileSystem}
  {records : List ChainRecord} {settings : RuntimeSettings} {seconds : PyFloat}

theorem ask_conserves {c : RuntimeCall}
    (hanswers : ∀ files r files', RuntimeFiles.Answers env files c r files' →
      Conserves site files files')
    (hpath : ∀ path, databasePath c = some path →
      ∃ role : Role, path = role.path site.directory) :
    Preserves (FileServer env) (Conserves site) (ask c) :=
  preserves_perform fun files _ files' hserve =>
    hserve.keeps (fun r hanswer => hanswers files r files' hanswer) (partly_conserves hpath)

/-- A call of an adapter that leaves its table as it is. -/
theorem uses_conserves (role : Role) {r : Except PyExn Unit}
    {call : SqliteFile → Except PyExn Unit → SqliteFile → Prop} (hrole : role ≠ .audit)
    (hcall : ∀ r file', call (site.shown role) r file' ↔ r = .ok () ∧ file' = site.shown role)
    (h : files.Uses (role.path site.directory) call r files') : Conserves site files files' := by
  refine conserves_shows fun file hshows => ?_
  have hsame : Function.update site.shown .audit file role = site.shown role :=
    Function.update_of_ne hrole _ _
  rw [← hsame] at hcall
  obtain ⟨-, rfl⟩ := (hshows.answers role hcall r files').mp h
  exact hshows.rewrite role

/-- The audit table is created, or found as it was left. -/
theorem openAudit_created {r : Except PyExn Unit} (hkept : site.Kept records files)
    (h : RuntimeFiles.Answers env files
      (.openAudit (Role.audit.path site.directory) (auditKeyPath site.directory)) r files') :
    site.Created records files' := by
  obtain ⟨file, haudit, hshows⟩ := hkept
  have hkey : AdapterSchemas.KeyFor (.bytes site.auditKey) .audit := fun _ =>
    ⟨site.auditKey, if_pos (key_regular hshows.auditKey).2⟩
  simp only [RuntimeFiles.Answers, hshows.auditKey] at h
  obtain ⟨file', hcall, rfl⟩ := hshows.uses_iff.mp h
  rw [Function.update_self] at hcall
  have hwritten := hshows.write .audit file'
  rw [Function.update_idem] at hwritten
  cases haudit with
  | missing hrecords =>
    obtain ⟨db, hholding, hcreates⟩ := constructs_empty .audit (.bytes site.auditKey) hkey
    obtain ⟨-, rfl⟩ := (hcreates _ _).mp hcall
    rw [hrecords]
    exact ⟨_, ⟨hholding, by simp, trivial⟩, hwritten⟩
  | chain hchain =>
    obtain ⟨-, rfl⟩ := (constructs_holding hchain.holding hkey).mp hcall
    exact ⟨_, hchain, hwritten⟩

theorem openAudit_conserves {r : Except PyExn Unit}
    (h : RuntimeFiles.Answers env files
      (.openAudit (Role.audit.path site.directory) (auditKeyPath site.directory)) r files') :
    Conserves site files files' :=
  ⟨fun _ hkept => (openAudit_created hkept h).kept,
    fun _ hcreated => openAudit_created hcreated.kept h⟩

theorem resolveAll_conserves (paths : List RuntimePath) :
    Preserves (FileServer env) (Conserves site) (resolveAll paths) := by
  induction paths with
  | nil => exact preserves_pure _
  | cons path paths ih =>
    apply Preserves.bind
    · exact ask_conserves (fun _ _ _ hanswer => conserves_same hanswer.2)
        fun _ hpath => by cases hpath
    · intro canonical
      apply ih.bind
      exact fun canonicals => preserves_pure _

theorem validateDistinctPaths_conserves (paths : List RuntimePath) (message : String) :
    Preserves (FileServer env) (Conserves site) (validateDistinctPaths paths message) := by
  apply (resolveAll_conserves paths).bind
  intro canonicalPaths
  split_ifs
  · exact preserves_raise (S := runtimeSignature) _
  · exact preserves_pure _

theorem getKey_conserves (path : RuntimePath) :
    Preserves (FileServer env) (Conserves site) (ask (.getKey path)) :=
  ask_conserves (fun _ _ _ hanswer => conserves_same hanswer.2) fun _ hpath => by cases hpath

theorem newCipher_conserves (key : Bytes) :
    Preserves (FileServer env) (Conserves site) (lift (newCipher key)) :=
  preserves_ofReply (S := runtimeSignature) (newCipher key)

theorem path_role {c : RuntimeCall} (role : Role)
    (hc : databasePath c = some (role.path site.directory)) (path : RuntimePath)
    (hpath : databasePath c = some path) : ∃ role : Role, path = role.path site.directory := by
  rw [hc] at hpath
  cases hpath
  exact ⟨role, rfl⟩

theorem openVault_conserves (hready : site.Ready) :
    Preserves (FileServer env) (Conserves site)
      (ask (.openVault (Role.vault.path site.directory))) := by
  obtain ⟨rows, hholding⟩ := hready.vault
  have hkey : AdapterSchemas.KeyFor .none .vault := fun hrole => by cases hrole
  refine ask_conserves (fun files r files' hanswer => ?_) (path_role .vault rfl)
  exact uses_conserves .vault (by decide)
    (fun r file' => constructs_holding hholding hkey) hanswer

theorem openUserAuth_conserves (hready : site.Ready) :
    Preserves (FileServer env) (Conserves site)
      (ask (.openUserAuth (Role.auth.path site.directory))) := by
  obtain ⟨rows, hholding⟩ := hready.auth
  have hkey : AdapterSchemas.KeyFor .none .userAuth := fun hrole => by cases hrole
  refine ask_conserves (fun files r files' hanswer => ?_) (path_role .auth rfl)
  exact uses_conserves .auth (by decide)
    (fun r file' => constructs_holding hholding hkey) hanswer

theorem configure_conserves {op : ConfigurationDatabase.Operation}
    (hrun : op.run (site.shown .config).config = .ok (site.shown .config).config) :
    Preserves (FileServer env) (Conserves site)
      (ask (.configure (Role.config.path site.directory) op)) := by
  refine ask_conserves (fun files r files' hanswer => ?_) (path_role .config rfl)
  exact uses_conserves .config (by decide) (fun r file' => configures_iff hrun) hanswer

theorem askOpenAudit_conserves :
    Preserves (FileServer env) (Conserves site)
      (ask (.openAudit (Role.audit.path site.directory) (auditKeyPath site.directory))) :=
  ask_conserves (fun _ _ _ hanswer => openAudit_conserves hanswer) (path_role .audit rfl)

/-- The application after the audit database was opened. -/
theorem openRest_conserves (hready : site.Ready) (settings : RuntimeSettings) (key : Bytes) :
    Preserves (FileServer env) (Conserves site) (do
      ask (.configure (Role.config.path site.directory) (.openPolicies true))
      ask (.configure (Role.config.path site.directory) (.openTargets true))
      ask (.configure (Role.config.path site.directory) (.openAccounts true))
      ask (.openUserAuth (Role.auth.path site.directory))
      let dummyHash ← ask .hashToken
      return (⟨settings, key, ⟨dummyHash⟩⟩ : ApplicationServices)) := by
  obtain ⟨htargets, haccounts, hpolicies⟩ := run_unchanged hready.config
  refine (configure_conserves hpolicies).bind fun _ => ?_
  refine (configure_conserves htargets).bind fun _ => ?_
  refine (configure_conserves haccounts).bind fun _ => ?_
  refine (openUserAuth_conserves hready).bind fun _ => ?_
  refine Preserves.bind ?_ fun dummyHash => preserves_pure _
  exact ask_conserves (fun _ _ _ hanswer => conserves_same hanswer.2) fun _ hpath => by cases hpath

/-- A start changes no records, however it ends. -/
theorem buildApplication_conserves (hready : site.Ready)
    (hsettings : runtimeSettings site.directory seconds = .ok settings) :
    Preserves (FileServer env) (Conserves site) (buildApplication settings) := by
  obtain ⟨hauth, hconfig, hvault, haudit, hvaultKey, hauditKey⟩ := runtimeSettings_paths hsettings
  unfold buildApplication
  rw [hauth, hconfig, hvault, haudit, hvaultKey, hauditKey]
  refine (validateDistinctPaths_conserves _ _).bind fun _ => ?_
  refine (validateDistinctPaths_conserves _ _).bind fun _ => ?_
  refine (getKey_conserves _).bind fun vaultKey => (getKey_conserves _).bind fun auditKey => ?_
  split_ifs
  · exact preserves_raise (S := runtimeSignature) _
  · refine (newCipher_conserves vaultKey).bind fun _ => ?_
    refine (openVault_conserves hready).bind fun _ => askOpenAudit_conserves.bind fun _ => ?_
    exact openRest_conserves hready settings vaultKey

theorem openRest_returns (settings : RuntimeSettings) (key : Bytes) :
    Returns (FileServer env) (do
      ask (.configure (Role.config.path site.directory) (.openPolicies true))
      ask (.configure (Role.config.path site.directory) (.openTargets true))
      ask (.configure (Role.config.path site.directory) (.openAccounts true))
      ask (.openUserAuth (Role.auth.path site.directory))
      let dummyHash ← ask .hashToken
      return (⟨settings, key, ⟨dummyHash⟩⟩ : ApplicationServices)) files
      fun services _ => services.settings = settings ∧ services.vaultKey = key := by
  have hany {c : RuntimeCall} (files : FileSystem) :
      Returns (FileServer env) (ask c) files fun _ _ => True :=
    returns_perform fun _ _ _ => trivial
  refine (hany _).bind fun _ _ _ => (hany _).bind fun _ _ _ => (hany _).bind fun _ _ _ => ?_
  refine (hany _).bind fun _ _ _ => (hany _).bind fun dummyHash _ _ => ?_
  exact returns_pure ⟨rfl, rfl⟩

/-- The application that is returned has the key of the vault, and the audit table is there. -/
theorem buildApplication_returns (hready : site.Ready)
    (hsettings : runtimeSettings site.directory seconds = .ok settings)
    (hkept : site.Kept records files) :
    Returns (FileServer env) (buildApplication settings) files fun services files' =>
      services.settings = settings ∧ services.vaultKey = site.vaultKey ∧
        site.Created records files' := by
  have hconserving {α : Type} {p : Setup α} {files : FileSystem}
      (hp : Preserves (FileServer env) (Conserves site) p) (hkept : site.Kept records files) :
      Returns (FileServer env) p files fun _ files' => site.Kept records files' :=
    fun _ files' hrun => (hp files _ files' hrun).kept records hkept
  obtain ⟨hauth, hconfig, hvault, haudit, hvaultKey, hauditKey⟩ := runtimeSettings_paths hsettings
  unfold buildApplication
  rw [hauth, hconfig, hvault, haudit, hvaultKey, hauditKey]
  refine (hconserving (validateDistinctPaths_conserves _ _) hkept).bind fun _ files₁ hkept₁ => ?_
  refine (hconserving (validateDistinctPaths_conserves _ _) hkept₁).bind fun _ files₂ hkept₂ => ?_
  refine Returns.bind (P := fun key files' => key = site.vaultKey ∧ site.Kept records files')
    ?_ fun vaultKey files₃ hread => ?_
  · refine returns_perform fun key files' hserve => ?_
    obtain ⟨hkey, rfl⟩ := faulty_ok hserve
    obtain ⟨file, haudit, hshows⟩ := hkept₂
    rw [hshows.vaultKey] at hkey
    exact ⟨Except.ok.inj hkey, file, haudit, hshows⟩
  obtain ⟨rfl, hkept₃⟩ := hread
  refine (hconserving (getKey_conserves _) hkept₃).bind fun auditKey files₄ hkept₄ => ?_
  split_ifs
  · exact returns_raise _ _
  refine (hconserving (newCipher_conserves _) hkept₄).bind fun _ files₅ hkept₅ => ?_
  refine (hconserving (openVault_conserves hready) hkept₅).bind fun _ files₆ hkept₆ => ?_
  refine Returns.bind (P := fun _ files' => site.Created records files') ?_ ?_
  · exact returns_perform fun _ files' hserve => openAudit_created hkept₆ (faulty_ok hserve)
  · intro _ files₇ hcreated services files' hrun
    obtain ⟨hsame, hkey⟩ := openRest_returns settings site.vaultKey services files' hrun
    have hconserves := openRest_conserves hready settings site.vaultKey files₇ _ files' hrun
    exact ⟨hsame, hkey, hconserves.created records hcreated⟩

end Startup

section Tools

variable {env : Environment} {site : Site} {files files' : FileSystem}
  {records : List ChainRecord}

theorem partly_confined {c : RuntimeCall} (h : Partly files c files') :
    ProvisioningSafety.Confined files c files' := by
  rcases h with rfl | ⟨path, hdatabase, rfl⟩
  · exact ProvisioningSafety.confined_same _ c
  have hchanges {node : Node} (hnode : ProvisioningSafety.Rewritten (files.node path) node) :
      ProvisioningSafety.Changes c path (files.node path) node := by
    cases c <;> cases hdatabase <;> exact ⟨rfl, hnode⟩
  cases hnode : files.node path with
  | absent =>
    apply ProvisioningSafety.confined_put
    apply hchanges
    rw [hnode]
    exact .created _
  | regular permissions content =>
    apply ProvisioningSafety.confined_put
    apply hchanges
    rw [hnode]
    exact .written permissions content content
  | _ => exact ProvisioningSafety.confined_put_same hnode

/-- The failures are among those that the tool was proved safe under. -/
theorem serves_of_faulty {c : RuntimeCall} {r : Reply runtimeSignature c}
    (h : FileServer env files c r files') : ProvisioningSafety.Serves env files c r files' := by
  rcases h with h | ⟨hraise, h | ⟨a, h⟩⟩
  · exact .inl ⟨_, h, ProvisioningSafety.sided_same _ _⟩
  · exact .inr ⟨hraise, partly_confined h⟩
  · exact .inr ⟨hraise, ProvisioningSafety.answers_confined h⟩

/-- The users stand in their database, so the tool refuses to run again. -/
theorem provisionLab_conserves (hready : site.Ready) {config : LabProvisioningConfig}
    {o : Outcome runtimeSignature LabRuntimePaths} (hdirectory : config.runtimeDir = site.directory)
    (hkept : site.Kept records files)
    (hrun : RunsOn (FileServer env) (provisionLab config) files o files') :
    Conserves site files files' := by
  obtain ⟨file, -, hshows⟩ := hkept
  obtain ⟨rows, hholding⟩ := hready.auth
  have hdatabase := hshows.database .auth
  have hexists : ¬ ProvisioningSafety.Free (files.node (Role.auth.path config.runtimeDir)) := by
    rw [hdirectory]
    intro hfree
    rcases hfree with habsent | hlink
    · rw [habsent] at hdatabase
      have hempty : site.shown .auth = .empty := (Option.some.inj hdatabase).symm
      rw [hempty] at hholding
      cases hholding.table
    · cases hnode : files.node (Role.auth.path site.directory) with
      | link target =>
        rw [hnode] at hdatabase
        cases hdatabase
      | _ => simp [hnode, Node.isLink] at hlink
  have hserved := hrun.mono fun _ _ _ _ => serves_of_faulty
  exact conserves_node
    (ProvisioningSafety.provisionLab_refused env config hexists o files' hserved).1

def ToolConserves (site : Site) (s s' : ToolState) : Prop := Conserves site s.files s'.files

instance (site : Site) : IsPreorder ToolState (ToolConserves site) where
  refl s := refl_of (Conserves site) s.files
  trans _ _ _ h h' := trans_of (Conserves site) h h'

/-- A call of the tool that only looks, or prints. -/
theorem askTool_conserves {c : ToolCall}
    (hserve : ∀ s r s', VerificationTool.Answers env s c r s' → s'.files = s.files)
    (hpart : ∀ s s', ToolPartly s c s' → s' = s) :
    Preserves (ToolServer env) (ToolConserves site) (VerificationTool.ask c) := by
  apply preserves_perform
  intro s r s' h
  apply h.keeps
  · intro r hanswer
    exact conserves_same (hserve s r s' hanswer)
  · intro hpartly
    rw [hpart s s' hpartly]
    exact refl_of (ToolConserves site) s

theorem isMissing_conserves (path : RuntimePath) :
    Preserves (ToolServer env) (ToolConserves site) (VerificationTool.isMissing path) := by
  refine Preserves.bind ?_ fun found => ?_
  · exact askTool_conserves (fun _ _ _ hanswer => congrArg ToolState.files hanswer.2)
      fun _ _ hpartly => hpartly
  · split_ifs
    · refine Preserves.bind ?_ fun size => preserves_pure _
      exact askTool_conserves (fun _ _ _ hanswer => congrArg ToolState.files hanswer.2)
        fun _ _ hpartly => hpartly
    · exact preserves_pure _

/-- The database that was opened is there. -/
theorem askToolOpen_ensures (s : ToolState) :
    EnsuresOn (ToolServer env)
      (VerificationTool.ask (.openAudit (auditPath site.directory) (auditKeyPath site.directory)))
      s fun o s' => ToolConserves site s s' ∧
        (o = .ret () → s'.files.node (auditPath site.directory) ≠ .absent) := by
  have hconserves {r : Except PyExn Unit} {s' : ToolState}
      (h : ToolServer env s
        (.openAudit (auditPath site.directory) (auditKeyPath site.directory)) r s') :
      ToolConserves site s s' := by
    apply h.keeps
    · intro r hanswer
      obtain ⟨files', hopened, rfl⟩ := hanswer
      exact openAudit_conserves hopened
    · intro hpartly
      obtain ⟨files', hpartly, rfl⟩ := hpartly
      exact partly_conserves (path_role .audit rfl) hpartly
  apply ensuresOn_perform
  · intro _ s' hserve
    refine ⟨hconserves hserve, fun _ => ?_⟩
    obtain ⟨files', hopened, rfl⟩ := faulty_ok hserve
    simp only [RuntimeFiles.Answers] at hopened
    split at hopened
    · obtain ⟨⟨e, he⟩, -⟩ := hopened
      cases he
    · unfold FileSystem.Uses at hopened
      split at hopened
      · obtain ⟨⟨e, he⟩, -⟩ := hopened
        cases he
      · obtain ⟨file', -, rfl⟩ := hopened
        rw [FileSystem.write, FileSystem.node_put_self]
        simp
  · intro e s' hserve
    exact ⟨hconserves hserve, fun hret => by cases hret⟩

theorem checkAudit_conserves :
    Preserves (ToolServer env) (ToolConserves site)
      (VerificationTool.checkAudit site.directory) := by
  refine (isMissing_conserves _).bind fun missing => ?_
  split_ifs
  · exact preserves_raise (S := VerificationTool.toolSignature) _
  refine (isMissing_conserves _).bind fun missing => ?_
  split_ifs
  · exact preserves_raise (S := VerificationTool.toolSignature) _
  intro s
  refine (askToolOpen_ensures s).bind (fun _ s₁ hopened => ?_) fun e s₁ hopened => hopened.1
  have hverify {r : Except PyExn Unit} {s₂ : ToolState} (hserve : ToolServer env s₁
      (.verifyIntegrity (auditPath site.directory) (auditKeyPath site.directory)) r s₂) :
      s₂ = s₁ :=
    hserve.keeps (fun _ hanswer => hanswer.2.2 (hopened.2 rfl)) fun hpartly => hpartly
  apply ensuresOn_perform
  · intro _ s₂ hserve
    rw [hverify hserve]
    exact hopened.1
  · intro e s₂ hserve
    rw [hverify hserve]
    exact hopened.1

/-- A verification changes no records, whatever it reports. -/
theorem main_conserves :
    Preserves (ToolServer env) (ToolConserves site) (VerificationTool.main site.directory) := by
  have hprint (line : PyStr) :
      Preserves (ToolServer env) (ToolConserves site) (VerificationTool.ask (.print line)) :=
    askTool_conserves (fun _ _ _ hanswer => by rw [hanswer.2]) fun _ _ hpartly => hpartly
  refine Preserves.bind ?_ fun verified => ?_
  · refine Preserves.tryExcept ?_ fun e => ?_
    · exact checkAudit_conserves.bind fun _ => preserves_pure _
    · split_ifs
      · exact preserves_pure _
      · exact preserves_raise (S := VerificationTool.toolSignature) e
  · split_ifs
    · exact (hprint _).bind fun _ => preserves_pure _
    · exact (hprint _).bind fun _ => preserves_pure _

end Tools

section Runs

variable {env : Environment} {site : Site} {records : List ChainRecord} {d d' : Deployment}

def rowsOf (records : List ChainRecord) : List (List SqlValue) :=
  records.map fun r => (recordRow r).values

/-- What is true at any time. -/
structure Alive (site : Site) (records : List ChainRecord) (d : Deployment) : Prop where
  kept : site.Kept records d.files
  created : d.running ≠ [] → site.Created records d.files
  running : ∀ services ∈ d.running, services.vaultKey = site.vaultKey ∧
    ∃ seconds, runtimeSettings site.directory seconds = .ok services.settings
  numbered : Numbered d.used records.length (rowsOf records)

theorem numbered_length {ids : List PyStr} {n : ℕ} {rows : List (List SqlValue)}
    (h : Numbered ids n rows) : rows.length = n := by
  induction h with
  | nil => rfl
  | concat _ _ ih => simp [ih]

/-- The rows of a chain are the rows of its trail. -/
theorem trail_numbered {ids : List PyStr} {n : ℕ} {db : AdapterSchemas.Database} {key : Bytes}
    (hchain : RecordedChain key records db) (htrail : Trail ids n db) :
    n = records.length ∧ Numbered ids records.length (rowsOf records) := by
  obtain ⟨rows, hholding, hnumbered⟩ := htrail
  have htable := hchain.holding.table.symm.trans hholding.table
  have hrows : rowsOf records = rows := by
    have hsame := congrArg (Option.map StoredTable.rows) htable
    exact Option.some.inj hsame
  have hlength : n = records.length := by
    rw [← numbered_length hnumbered, ← hrows, rowsOf, List.length_map]
  exact ⟨hlength, by rw [hrows, ← hlength]; exact hnumbered⟩

/-- A running application sees the audit database of the site. -/
theorem accessState_shown {services : ApplicationServices} {seconds : PyFloat}
    {file : SqliteFile} (hsettings : runtimeSettings site.directory seconds = .ok services.settings)
    (hshows : site.Shows file d.files) :
    accessState d services = ⟨file.database, d.used⟩ := by
  obtain ⟨-, -, -, haudit, -, -⟩ := runtimeSettings_paths hsettings
  rw [accessState, haudit, sqlite_eq hshows .audit, Function.update_self]

/-- One call of an application adds at most one record. -/
theorem access_step {rt : Runtime} {key : Bytes} {w w' : AccessState} {c : PamCall}
    {r : Reply pamSignature c} (hkey : key.length = macSize)
    (hchain : RecordedChain key records w.audit)
    (hnumbered : Numbered w.used records.length (rowsOf records))
    (h : AccessServer rt key w c r w') : ∃ records', records <+: records' ∧
      RecordedChain key records' w'.audit ∧
      Numbered w'.used records'.length (rowsOf records') := by
  apply h.keeps
  · intro r hanswer
    obtain ⟨records', hprefix, hchain'⟩ := hchain.served hkey hanswer
    have hrecording : Recording records.length w := ⟨_, hchain.holding, hnumbered⟩
    refine ⟨records', hprefix, hchain', ?_⟩
    rcases answers_recording hkey hrecording hanswer with htrail | htrail
    · exact (trail_numbered hchain' htrail).2
    · exact (trail_numbered hchain' htrail).2
  · intro hsame
    rw [hsame]
    exact ⟨records, List.prefix_rfl, hchain, hnumbered⟩

/-- The records grow, and a table that is there stays. -/
def Grows (site : Site) (records : List ChainRecord) (d d' : Deployment) : Prop :=
  ∃ records', records <+: records' ∧ Alive site records' d' ∧
    (site.Created records d.files → site.Created records' d'.files)

/-- A step that conserves the records. -/
theorem Alive.conserved (h : Alive site records d) {files' : FileSystem}
    {running : List ApplicationServices} (hconserves : Conserves site d.files files')
    (hcreated : running ≠ [] → site.Created records files')
    (hrunning : ∀ services ∈ running, services.vaultKey = site.vaultKey ∧
      ∃ seconds, runtimeSettings site.directory seconds = .ok services.settings) :
    Grows site records d ⟨files', d.used, running⟩ :=
  ⟨records, List.prefix_rfl,
    ⟨hconserves.kept records h.kept, hcreated, hrunning, h.numbered⟩, hconserves.created records⟩

/-- The applications that were running go on. -/
theorem Alive.continued (h : Alive site records d) {files' : FileSystem}
    (hconserves : Conserves site d.files files') :
    Grows site records d { d with files := files' } :=
  h.conserved hconserves (fun hrunning => hconserves.created records (h.created hrunning))
    h.running

/-- The step lemma. -/
theorem Alive.step (hready : site.Ready) (h : Alive site records d)
    (hstep : Step env site.directory d d') : Grows site records d d' := by
  cases hstep with
  | provision hdirectory hrun =>
    exact h.continued (provisionLab_conserves hready hdirectory h.kept hrun)
  | verify hrun => exact h.continued (main_conserves _ _ _ hrun)
  | @start seconds settings o files' hsettings hrun =>
    have hconserves := buildApplication_conserves hready hsettings d.files o files' hrun
    cases o with
    | ret services =>
      obtain ⟨rfl, hvaultKey, hcreated⟩ :=
        buildApplication_returns hready hsettings h.kept services files' hrun
      refine h.conserved hconserves (fun _ => hcreated) ?_
      intro other hother
      rcases List.mem_cons.mp hother with rfl | hother
      · exact ⟨hvaultKey, seconds, hsettings⟩
      · exact h.running other hother
    | raise e => exact h.continued hconserves
  | exit hsubset =>
    refine h.conserved (conserves_same rfl) (fun hrunning => h.created fun hnone => ?_) ?_
    · rw [hnone] at hsubset
      exact hrunning (List.subset_nil.mp hsubset)
    · exact fun services hservices => h.running services (hsubset hservices)
  | @call services key c r w hrunning hkey hserve =>
    obtain ⟨-, seconds, hsettings⟩ := h.running services hrunning
    obtain ⟨file, hchain, hshows⟩ := h.created (List.ne_nil_of_mem hrunning)
    obtain ⟨-, -, -, haudit, -, hauditKey⟩ := runtimeSettings_paths hsettings
    rw [hauditKey, hshows.auditKey] at hkey
    cases hkey
    rw [accessState_shown hsettings hshows] at hserve
    obtain ⟨records', hprefix, hchain', hnumbered⟩ := access_step
      (key_regular hshows.auditKey).2 (w := ⟨file.database, d.used⟩) hchain h.numbered hserve
    have hwritten := hshows.write .audit ⟨w.audit, file.config⟩
    rw [Function.update_idem] at hwritten
    have hfiles : VerificationTool.servedFiles services d.files w =
        d.files.write (Role.audit.path site.directory) ⟨w.audit, file.config⟩ := by
      rw [VerificationTool.servedFiles, haudit, sqlite_eq hshows .audit, Function.update_self]
    have hcreated : site.Created records' (VerificationTool.servedFiles services d.files w) := by
      rw [hfiles]
      exact ⟨_, hchain', hwritten⟩
    exact ⟨records', hprefix, ⟨hcreated.kept, fun _ => hcreated, h.running, hnumbered⟩,
      fun _ => hcreated⟩

/-- The run lemma. -/
theorem Alive.life (hready : site.Ready) (h : Alive site records d)
    (hlife : Life env site.directory d d') : Grows site records d d' := by
  induction hlife with
  | refl => exact ⟨records, List.prefix_rfl, h, id⟩
  | tail _ hstep ih =>
    obtain ⟨records₁, hprefix₁, halive₁, hcreated₁⟩ := ih
    obtain ⟨records₂, hprefix₂, halive₂, hcreated₂⟩ := halive₁.step hready hstep
    exact ⟨records₂, hprefix₁.trans hprefix₂, halive₂, fun h => hcreated₂ (hcreated₁ h)⟩

end Runs

section Lifetime

variable {env : Environment} {site : Site} {records : List ChainRecord} {d : Deployment}
  {files : FileSystem} {config : LabProvisioningConfig} {labRecords : LabRecords}
  {pamPassword targetPassword : PyStr}

/-- What can be relied on at any time: the application starts, the user of the configuration
can authenticate, and every request is answered as it was configured, while the numbers of
the audit trail last. -/
structure Operates (env : Environment) (config : LabProvisioningConfig)
    (pamPassword targetPassword : PyStr) (d : Deployment) : Prop where
  starts : ∀ seconds settings, runtimeSettings config.runtimeDir seconds = .ok settings →
    TotalOn (RuntimeFiles.Answers env)
      (fun o _ => ∃ services, o = .ret services ∧ services.settings = settings)
      (buildApplication settings) d.files
  authenticates : ∀ services ∈ d.running, ∃ principal, principal.userId = config.userId ∧
    principal.username = config.username ∧
    authenticated env services d.files config.username pamPassword =
      some (.ret principal, [pamPassword])
  handles : ∀ services ∈ d.running, ∃ auditKey,
    (d.files.node services.settings.auditIntegrityKeyPath).key = .ok auditKey ∧
    ((auditRows config.runtimeDir d.files).length + 2 < 2 ^ 63 →
      ∀ principal request terminal m, request.postInit = .ok request →
        Handled env services d.files config targetPassword auditKey (accessState d services)
          principal request terminal m)

/-- A database with a table is not an empty file. -/
theorem database_regular {node : Node} {file : SqliteFile} (h : node.database? = some file)
    (hfile : file ≠ .empty) : ∃ permissions, node = .regular permissions (.sqlite file) := by
  cases node with
  | absent => exact absurd (Option.some.inj h).symm hfile
  | regular permissions content =>
    cases content with
    | bytes data =>
      cases data with
      | nil => exact absurd (Option.some.inj h).symm hfile
      | cons b data => cases h
    | sqlite file' =>
      cases h
      exact ⟨permissions, rfl⟩
  | _ => cases h

theorem Site.Created.sound (h : site.Created records files) :
    VerificationTool.Sound site.directory files := by
  obtain ⟨file, hchain, hshows⟩ := h
  have hdatabase := hshows.database .audit
  rw [Function.update_self] at hdatabase
  have hfile : file ≠ .empty := by
    rintro rfl
    cases hchain.holding.table
  obtain ⟨permissions, hnode⟩ := database_regular hdatabase hfile
  exact VerificationTool.RecordedChain.sound hchain hshows.auditKey hnode

theorem Site.Kept.rows (h : site.Kept records files) :
    auditRows site.directory files = rowsOf records := by
  obtain ⟨file, haudit, hshows⟩ := h
  rw [auditRows, sqlite_eq hshows .audit, Function.update_self]
  cases haudit with
  | missing hrecords =>
    rw [hrecords]
    rfl
  | chain hchain =>
    rw [hchain.holding.table]
    rfl

/-- The audit database is opened, whether an application was started before or not. -/
theorem openAudit_total_kept {α : Type} {Q : Outcome runtimeSignature α → FileSystem → Prop}
    {p : Unit → Setup α} (hkept : site.Kept records files)
    (hrest : ∀ file files', site.Shows file files' →
      TotalOn (RuntimeFiles.Answers env) Q (p ()) files') :
    TotalOn (RuntimeFiles.Answers env) Q
      (ask (.openAudit (Role.audit.path site.directory) (auditKeyPath site.directory)) >>= p)
      files := by
  obtain ⟨file, haudit, hshows⟩ := hkept
  cases haudit with
  | missing _ =>
    refine openAudit_total hshows (Function.update_self _ _ _) fun file' files' _ hshows' => ?_
    rw [Function.update_idem] at hshows'
    exact hrest file' files' hshows'
  | chain hchain =>
    have hkey : AdapterSchemas.KeyFor (.bytes site.auditKey) .audit := fun _ =>
      ⟨site.auditKey, if_pos (key_regular hshows.auditKey).2⟩
    have hcall : ∀ r file', Constructs .audit (.bytes site.auditKey)
        (Function.update site.shown .audit file .audit) r file' ↔
          r = .ok () ∧ file' = Function.update site.shown .audit file .audit := by
      rw [Function.update_self]
      exact fun r file' => constructs_holding hchain.holding hkey
    refine totalOn_answer (c := .openAudit _ _) (fun r files' => ?_)
      (hrest file _ (hshows.rewrite .audit))
    simp only [RuntimeFiles.Answers, hshows.auditKey]
    exact hshows.answers .audit hcall r files'

/-- Without failures the application starts. -/
theorem buildApplication_starts (hreliable : env.Reliable) (hready : site.Ready)
    (hkept : site.Kept records files) {seconds : PyFloat} {settings : RuntimeSettings}
    (hsettings : runtimeSettings site.directory seconds = .ok settings) :
    TotalOn (RuntimeFiles.Answers env)
      (fun o _ => ∃ services, o = .ret services ∧ services.settings = settings)
      (buildApplication settings) files := by
  obtain ⟨hauth, hconfig, hvault, haudit, hvaultKey, hauditKey⟩ := runtimeSettings_paths hsettings
  obtain ⟨file, hfile, h⟩ := hkept
  unfold buildApplication
  rw [hauth, hconfig, hvault, haudit, hvaultKey, hauditKey]
  have hkeyNames : [py "vault.key", py "audit.key"].Nodup := by decide
  refine validateDistinctPaths_total site.directory hkeyNames ?_ ?_
  · intro name hname
    simp only [List.mem_cons, List.not_mem_nil, or_false] at hname
    rcases hname with rfl | rfl
    · exact h.resolve_key.1
    · exact h.resolve_key.2
  have hfileNames : ([Role.auth, .config, .vault, .audit].map Role.fileName).Nodup := by decide
  refine validateDistinctPaths_total site.directory hfileNames ?_ ?_
  · intro name hname
    obtain ⟨role, -, rfl⟩ := List.mem_map.mp hname
    exact h.resolve_database role
  refine getKey_total h.vaultKey (getKey_total h.auditKey ?_)
  have hcipher : newCipher site.vaultKey = .ok () := if_pos (key_regular h.vaultKey).2
  rw [if_neg hready.distinct, hcipher]
  obtain ⟨vaultRows, hvaultHolding⟩ := hready.vault
  obtain ⟨authRows, hauthHolding⟩ := hready.auth
  obtain ⟨hopenTargets, hopenAccounts, hopenPolicies⟩ := run_unchanged hready.config
  refine openVault_total h hvaultHolding fun files₁ h => ?_
  refine openAudit_total_kept ⟨file, hfile, h⟩ fun file files₂ h => ?_
  refine configure_total h hopenPolicies fun _ h => ?_
  refine configure_total h hopenTargets fun _ h => ?_
  refine configure_total h hopenAccounts fun _ h => ?_
  refine openUserAuth_total h hauthHolding fun _ h => ?_
  exact hashToken_total hreliable fun hash => ⟨_, rfl, rfl⟩

/-- A provisioned site is ready. -/
theorem ready_provisioned (site : Site)
    (h : Provisioned env labRecords site.vaultKey pamPassword targetPassword site.shown)
    (hkeys : site.vaultKey ≠ site.auditKey) : site.Ready := by
  obtain ⟨salt, encodedHash, row, -, -, -, hauth⟩ := h.user
  obtain ⟨targetSecret, -, nonce, secret, -, -, hvault⟩ := h.credential
  exact ⟨⟨_, hauth⟩, ⟨_, hvault⟩, h.complete, hkeys⟩

/-- What is true at any time is enough. -/
theorem Alive.operates (hreliable : env.Reliable)
    (hprovisioned : Provisioned env labRecords site.vaultKey pamPassword targetPassword
      site.shown) (hkeys : site.vaultKey ≠ site.auditKey)
    (hdirectory : site.directory = config.runtimeDir) (hfollows : Follows config labRecords)
    (h : Alive site records d) : Operates env config pamPassword targetPassword d := by
  obtain ⟨plaintext, hencode, hholds⟩ := holds_provisioned hreliable hprovisioned
  have hready := ready_provisioned site hprovisioned hkeys
  refine ⟨?_, ?_, ?_⟩
  · intro seconds settings hsettings
    rw [← hdirectory] at hsettings
    exact buildApplication_starts hreliable hready h.kept hsettings
  · intro services hservices
    obtain ⟨-, seconds, hsettings⟩ := h.running services hservices
    obtain ⟨file, -, hshows⟩ := h.kept
    obtain ⟨hauth, -⟩ := runtimeSettings_paths hsettings
    have huser := hprovisioned.user
    rw [hfollows.user] at huser
    refine ⟨⟨config.userId, config.username, hfollows.userId, hfollows.username⟩, rfl, rfl, ?_⟩
    rw [authenticated, hauth, sqlite_eq hshows .auth]
    exact authenticate_created hreliable huser rfl hfollows.userId hfollows.username _
  · intro services hservices
    obtain ⟨hvaultKey, seconds, hsettings⟩ := h.running services hservices
    obtain ⟨file, hchain, hshows⟩ := h.created (List.ne_nil_of_mem hservices)
    obtain ⟨-, hconfig, hvault, haudit, -, hauditKey⟩ := runtimeSettings_paths hsettings
    refine ⟨site.auditKey, by rw [hauditKey]; exact hshows.auditKey, fun hroom => ?_⟩
    have hruntime : runtime env services d.files = runtimeOf env site.vaultKey site.shown := by
      rw [runtime, runtimeOf, hconfig, hvault, sqlite_eq hshows .config, sqlite_eq hshows .vault,
        hvaultKey]
      simp
    have hrecording : Recording records.length (accessState d services) := by
      rw [accessState_shown hsettings hshows]
      exact ⟨_, hchain.holding, h.numbered⟩
    rw [← hdirectory, h.kept.rows, rowsOf, List.length_map] at hroom
    intro principal request terminal m hrequest
    exact handled_started hruntime hholds hfollows hencode
      (configured_encodable hfollows hprovisioned) (key_regular hshows.auditKey).2 hrecording
      (by omega) principal terminal m hrequest

/-- From provisioning on, through any starts, requests, verifications and failures: the
deployment can be relied on, the audit trail only grows, and once an application has been
started the chain verifies at any later time. -/
theorem deployment_lives (hreliable : env.Reliable) (config : LabProvisioningConfig)
    {files files' : FileSystem} {paths : LabRuntimePaths}
    (hfresh : ∀ role : Role, files.node (role.path config.runtimeDir) = .absent)
    (hrun : RunsOn (RuntimeFiles.Serves env) (provisionLab config) files (.ret paths) files') :
    ∃ pamPassword targetPassword,
      env.readSecret (py "PAM application user password: ") = .ok (.str pamPassword) ∧
      env.readSecret (py "Target pamadmin SSH password: ") = .ok (.str targetPassword) ∧
      ∀ d, Life env config.runtimeDir ⟨files', [], []⟩ d →
        Operates env config pamPassword targetPassword d ∧
        ∀ d', Life env config.runtimeDir d d' →
          auditRows config.runtimeDir d.files <+: auditRows config.runtimeDir d'.files ∧
          (d.running ≠ [] → TotalOn (VerificationTool.Answers env)
            (fun o s => o = .ret 0 ∧ s.printed = [VerificationTool.ok])
            (VerificationTool.main config.runtimeDir) ⟨d'.files, []⟩) := by
  obtain ⟨-, labRecords, vaultKey, auditKey, pamPassword, targetPassword, shown, hrecords, hkeys,
    hpam, htarget, hstands, hprovisioned⟩ :=
      provisionLab_returns env config files hfresh paths files' hrun
  let site : Site := ⟨config.runtimeDir, vaultKey, auditKey, shown⟩
  have hready : site.Ready := ready_provisioned site hprovisioned hkeys
  have hshows : site.Shows .empty files' := by
    have hsame : Function.update shown .audit .empty = shown := by
      rw [← hprovisioned.audit, Function.update_eq_self]
    rw [Site.Shows, hsame]
    exact hstands
  have halive : Alive site [] ⟨files', [], []⟩ :=
    ⟨⟨.empty, .missing rfl, hshows⟩, fun hrunning => absurd rfl hrunning, by simp, .nil⟩
  refine ⟨pamPassword, targetPassword, hpam, htarget, fun d hlife => ?_⟩
  obtain ⟨records, -, halive, -⟩ := halive.life hready hlife
  refine ⟨halive.operates hreliable hprovisioned hkeys rfl (buildRecords_follows hrecords),
    fun d' hlife' => ?_⟩
  obtain ⟨records', hprefix, halive', hcreated'⟩ := halive.life hready hlife'
  constructor
  · have hrows := halive.kept.rows
    have hrows' := halive'.kept.rows
    rw [hrows, hrows']
    exact hprefix.map _
  · intro hrunning
    exact VerificationTool.main_total (hcreated' (halive.created hrunning)).sound

theorem example_deployment_lives : ∃ paths files',
    RunsOn (RuntimeFiles.Serves exampleEnv) (provisionLab exampleConfig) emptyFiles (.ret paths)
      files' ∧
    ∃ pamPassword targetPassword,
      exampleEnv.readSecret (py "PAM application user password: ") = .ok (.str pamPassword) ∧
      exampleEnv.readSecret (py "Target pamadmin SSH password: ") = .ok (.str targetPassword) ∧
      ∀ d, Life exampleEnv exampleConfig.runtimeDir ⟨files', [], []⟩ d →
        Operates exampleEnv exampleConfig pamPassword targetPassword d ∧
        ∀ d', Life exampleEnv exampleConfig.runtimeDir d d' →
          auditRows exampleConfig.runtimeDir d.files <+:
            auditRows exampleConfig.runtimeDir d'.files ∧
          (d.running ≠ [] → TotalOn (VerificationTool.Answers exampleEnv)
            (fun o s => o = .ret 0 ∧ s.printed = [VerificationTool.ok])
            (VerificationTool.main exampleConfig.runtimeDir) ⟨d'.files, []⟩) := by
  obtain ⟨paths, files', hrun⟩ := example_provisioned
  exact ⟨paths, files', hrun,
    deployment_lives exampleEnv_reliable exampleConfig (fun _ => rfl) hrun⟩

end Lifetime

end PamMvp.DeploymentLifetime
