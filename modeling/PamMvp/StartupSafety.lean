import PamMvp.DeploymentLifetime

/-!
# What a start leaves of the files

Settings may name any paths but those of the side files that SQLite keeps beside a database, and
anything may stand there. However a start ends, nothing that the files held is lost: at most the
databases that it was given are private now and have the tables they lacked, and both keys can
still be read. Settings that name one file twice, or keys that are not told apart, are refused
before anything is touched. Where an application started, the next one starts and leaves the
files as they are.
-/
namespace PamMvp.StartupSafety
open InteractionPrograms SharedPrograms TotalPrograms ReturningPrograms PreservingPrograms
  FaultyServers PythonText DomainModel SqliteValues RuntimeConfiguration RuntimeFiles
  LabProvisioning ApplicationStartup
open AdapterSchemas (Repository KeyFor)
open DeploymentLifetime (FileServer Partly secured)

section Server

/-- The file systems agree, but for the paths with `P`. -/
structure Agree (P : RuntimePath → Prop) (files files' : FileSystem) : Prop where
  directory : files'.directory = files.directory
  canonical : files'.canonical = files.canonical
  node : ∀ path, ¬ P path → files'.node path = files.node path

/-- The database is in a file, and no side file stands beside it. -/
structure Clean (files : FileSystem) (database : RuntimePath) : Prop where
  named : database.name ≠ py ":memory:"
  sides : ∀ path, files.Side database path → files.node path = .absent

/-- The calls, with the side files of SQLite in its default mode. A call that succeeds leaves
none; one that fails may leave any, and what the database holds is what SQLite shows of both.
Where a side file was found, the call may have rolled the database back, and the name `:memory:`
is for SQLite none of a file. -/
def SqliteServer (env : Environment) : Server runtimeSignature FileSystem := fun files c r files' =>
  match databasePath c with
  | none => FileServer env files c r files'
  | some database =>
    (Clean files database ∧ ∃ files₁, FileServer env files c r files₁ ∧
      (files' = files₁ ∨ (∃ e, r = .error e) ∧ Agree (files.Side database) files₁ files')) ∨
    ¬ Clean files database ∧
      Agree (fun path => path = database ∨ files.Side database path) files files'

/-- Only a database has side files. -/
theorem sqlite_look {env : Environment} {files files' : FileSystem} {c : RuntimeCall}
    {r : Reply runtimeSignature c} (hc : databasePath c = none)
    (h : SqliteServer env files c r files') : FileServer env files c r files' := by
  unfold SqliteServer at h
  rwa [hc] at h

end Server

section Purpose

/-- The databases that settings name. -/
def databases (settings : RuntimeSettings) : List RuntimePath :=
  [settings.authDbPath, settings.configDbPath, settings.vaultDbPath, settings.auditDbPath]

/-- The files and the keys are told apart. -/
structure Admissible (settings : RuntimeSettings) (files : FileSystem)
    (vaultKey auditKey : Bytes) : Prop where
  keyPaths : files.resolve settings.vaultKeyPath ≠ files.resolve settings.auditIntegrityKeyPath
  databasePaths : ((databases settings).map files.resolve).Nodup
  readsVaultKey : (files.node settings.vaultKeyPath).key = .ok vaultKey
  readsAuditKey : (files.node settings.auditIntegrityKeyPath).key = .ok auditKey
  different : vaultKey ≠ auditKey

/-- The path is that of a side file of one of the databases. -/
def Beside (settings : RuntimeSettings) (files : FileSystem) (path : RuntimePath) : Prop :=
  ∃ database ∈ databases settings, files.Side database path

/-- The databases are in files, no path of the settings is that of a side file, and none stands
beside a database. -/
structure Apart (settings : RuntimeSettings) (files : FileSystem) : Prop where
  named : ∀ path ∈ databases settings, path.name ≠ py ":memory:"
  vaultKey : ¬ Beside settings files settings.vaultKeyPath
  auditKey : ¬ Beside settings files settings.auditIntegrityKeyPath
  database : ∀ path ∈ databases settings, ¬ Beside settings files path
  clean : ∀ path, Beside settings files path → files.node path = .absent

/-- Every table is still there, with its rows. -/
structure Extended (file file' : SqliteFile) : Prop where
  tables : file.database.tables <+: file'.database.tables
  targets : ∀ t, file.config.targets = some t → file'.config.targets = some t
  accounts : ∀ t, file.config.accounts = some t → file'.config.accounts = some t
  policies : ∀ t, file.config.policies = some t → file'.config.policies = some t

/-- A file before and after it was opened as a database. -/
inductive Reopened : Node → Node → Prop where
  | same (node : Node) : Reopened node node
  | secured (permissions : ℕ) (content : Content) :
    Reopened (.regular permissions content) (.regular 0o600 content)
  | extended {node : Node} {content : Content} {file file' : SqliteFile}
    (hfile : node.database? = some file) (hfile' : content.sqlite? = some file')
    (h : Extended file file') : Reopened node (.regular 0o600 content)

structure Opens (paths : List RuntimePath) (files files' : FileSystem) : Prop where
  directory : files'.directory = files.directory
  canonical : files'.canonical = files.canonical
  elsewhere : ∀ path, path ∉ paths → files'.node path = files.node path
  node : ∀ path, Reopened (files.node path) (files'.node path)

/-- What a start leaves of the files, but for side files. -/
structure Leaves (settings : RuntimeSettings) (files files' : FileSystem) : Prop where
  directory : files'.directory = files.directory
  canonical : files'.canonical = files.canonical
  elsewhere : ∀ path, path ∉ databases settings → ¬ Beside settings files path →
    files'.node path = files.node path
  node : ∀ path, ¬ Beside settings files path → Reopened (files.node path) (files'.node path)

/-- The table of a repository is there, under the version that it expects. -/
def Settled (repository : Repository) (file : SqliteFile) : Prop :=
  ∃ t, file.database.table? repository.tableName = some t ∧
    repository.accepts repository.schemaVersion t.schema ∧
      file.database.userVersion = repository.schemaVersion

/-- A private database. -/
def Stored (files : FileSystem) (path : RuntimePath) (P : SqliteFile → Prop) : Prop :=
  ∃ file, files.node path = .regular 0o600 (.sqlite file) ∧ P file

structure Running (settings : RuntimeSettings) (files : FileSystem) : Prop where
  auth : Stored files settings.authDbPath (Settled .userAuth)
  config : Stored files settings.configDbPath fun file => Complete file.config
  vault : Stored files settings.vaultDbPath (Settled .vault)
  audit : Stored files settings.auditDbPath (Settled .audit)

end Purpose

section Files

variable {paths : List RuntimePath} {files files' : FileSystem} {node node' node'' : Node}
  {path : RuntimePath} {settings : RuntimeSettings} {vaultKey auditKey : Bytes}

theorem Extended.refl (file : SqliteFile) : Extended file file :=
  ⟨List.prefix_rfl, fun _ h => h, fun _ h => h, fun _ h => h⟩

theorem Extended.trans {file file' file'' : SqliteFile} (h : Extended file file')
    (h' : Extended file' file'') : Extended file file'' where
  tables := h.tables.trans h'.tables
  targets t ht := h'.targets t (h.targets t ht)
  accounts t ht := h'.accounts t (h.accounts t ht)
  policies t ht := h'.policies t (h.policies t ht)

theorem Reopened.trans (h : Reopened node node') (h' : Reopened node' node'') :
    Reopened node node'' := by
  cases h' with
  | same => exact h
  | secured permissions content =>
    cases h with
    | same => exact .secured permissions content
    | secured permissions content => exact .secured permissions content
    | extended hfile hfile' hextended => exact .extended hfile hfile' hextended
  | extended hnode hnode' hagain =>
    cases h with
    | same => exact .extended hnode hnode' hagain
    | secured permissions content => exact .extended hnode hnode' hagain
    | extended hfile hfile' hextended =>
      have hsame := hfile'.symm.trans hnode
      cases hsame
      exact .extended hfile hnode' (hextended.trans hagain)

instance (paths : List RuntimePath) : IsPreorder FileSystem (Opens paths) where
  refl _ := ⟨rfl, rfl, fun _ _ => rfl, fun _ => .same _⟩
  trans _ _ _ h h' :=
    ⟨h'.directory.trans h.directory, h'.canonical.trans h.canonical,
      fun path hpath => (h'.elsewhere path hpath).trans (h.elsewhere path hpath),
      fun path => (h.node path).trans (h'.node path)⟩

/-- A key is no database, so it is not written to. -/
theorem key_not_database {key : Bytes} (hkey : node.key = .ok key) : node.database? = none := by
  cases node with
  | regular permissions content =>
    simp only [Node.key] at hkey
    split_ifs at hkey
    cases content with
    | bytes data =>
      simp only at hkey
      split_ifs at hkey with hlength
      cases data with
      | nil => cases hlength
      | cons b data => rfl
    | sqlite file => cases hkey
  | _ => cases hkey

theorem Reopened.key {key : Bytes} (h : Reopened node node') (hkey : node.key = .ok key) :
    node'.key = .ok key := by
  cases h with
  | same => exact hkey
  | secured permissions content =>
    simp only [Node.key] at hkey ⊢
    split_ifs at hkey
    rw [if_neg (by decide)]
    exact hkey
  | extended hfile =>
    rw [key_not_database hkey] at hfile
    cases hfile

/-- No link is written over, so every path still leads to the same file. -/
theorem Leaves.resolve (h : Leaves settings files files') (hpath : ¬ Beside settings files path) :
    files'.resolve path = files.resolve path := by
  have hnode := h.node path hpath
  unfold FileSystem.resolve
  rw [h.canonical]
  generalize files.node path = node at hnode ⊢
  generalize files'.node path = node' at hnode ⊢
  cases hnode with
  | same => rfl
  | secured permissions content => rfl
  | extended hfile =>
    cases node with
    | link target => cases hfile
    | _ => rfl

theorem Admissible.leaves (h : Admissible settings files vaultKey auditKey)
    (hapart : Apart settings files) (hleaves : Leaves settings files files') :
    Admissible settings files' vaultKey auditKey := by
  refine ⟨?_, ?_, (hleaves.node _ hapart.vaultKey).key h.readsVaultKey,
    (hleaves.node _ hapart.auditKey).key h.readsAuditKey, h.different⟩
  · rw [hleaves.resolve hapart.vaultKey, hleaves.resolve hapart.auditKey]
    exact h.keyPaths
  · have hmap : (databases settings).map files'.resolve =
        (databases settings).map files.resolve :=
      List.map_congr_left fun path hpath => hleaves.resolve (hapart.database path hpath)
    rw [hmap]
    exact h.databasePaths

theorem Opens.leaves (h : Opens (databases settings) files files') :
    Leaves settings files files' :=
  ⟨h.directory, h.canonical, fun path hpath _ => h.elsewhere path hpath, fun path _ => h.node path⟩

theorem beside_canonical (h : files'.canonical = files.canonical) (path : RuntimePath) :
    Beside settings files' path ↔ Beside settings files path := by
  simp only [Beside, FileSystem.Side, h]

/-- Side files that a failure leaves do not count. -/
theorem Leaves.agree {files₁ : FileSystem} (h : Leaves settings files files₁)
    (hagree : Agree (Beside settings files₁) files₁ files') : Leaves settings files files' := by
  have hnode (path : RuntimePath) (hpath : ¬ Beside settings files path) :
      files'.node path = files₁.node path := by
    apply hagree.node
    rwa [beside_canonical h.canonical]
  refine ⟨hagree.directory.trans h.directory, hagree.canonical.trans h.canonical,
    fun path hdatabases hpath => ?_, fun path hpath => ?_⟩
  · rw [hnode path hpath]
    exact h.elsewhere path hdatabases hpath
  · rw [hnode path hpath]
    exact h.node path hpath

/-- A start that fails nowhere leaves no side file. -/
theorem Apart.opens (h : Apart settings files) (hopens : Opens (databases settings) files files') :
    Apart settings files' := by
  have hbeside : ∀ path, Beside settings files' path ↔ Beside settings files path :=
    beside_canonical hopens.canonical
  refine ⟨h.named, ?_, ?_, fun path hpath => ?_, fun path hpath => ?_⟩
  · rw [hbeside]
    exact h.vaultKey
  · rw [hbeside]
    exact h.auditKey
  · rw [hbeside]
    exact h.database path hpath
  · rw [hbeside] at hpath
    rw [hopens.elsewhere path fun hdatabase => h.database path hdatabase hpath]
    exact h.clean path hpath

theorem opens_put (hpath : path ∈ paths) (h : Reopened (files.node path) node) :
    Opens paths files (files.put path node) := by
  refine ⟨rfl, rfl, fun other hother => ?_, fun other => ?_⟩
  · apply files.node_put_of_ne
    rintro rfl
    exact hother hpath
  · by_cases hsame : other = path
    · subst hsame
      rw [FileSystem.node_put_self]
      exact h
    · rw [files.node_put_of_ne node hsame]
      exact .same _

theorem secured_reopened (node : Node) : Reopened node (secured node) := by
  cases node with
  | absent => exact .extended rfl rfl (.refl _)
  | regular permissions content => exact .secured permissions content
  | _ => exact .same _

theorem partly_opens {c : RuntimeCall} (h : Partly files c files')
    (hpath : ∀ path, databasePath c = some path → path ∈ paths) : Opens paths files files' := by
  rcases h with rfl | ⟨path, hdatabase, rfl⟩
  · exact refl_of (Opens paths) _
  · exact opens_put (hpath path hdatabase) (secured_reopened _)

end Files

section Adapters

variable {paths : List RuntimePath} {files files' : FileSystem} {path : RuntimePath}
  {repository : Repository} {key : PyValue} {file file' : SqliteFile} {r : Except PyExn Unit}
  {call : SqliteFile → Except PyExn Unit → SqliteFile → Prop}

theorem uses_opens (hpath : path ∈ paths)
    (hcall : ∀ file r file', call file r file' → Extended file file')
    (h : files.Uses path call r files') : Opens paths files files' := by
  unfold FileSystem.Uses at h
  cases hdatabase : (files.node path).database? with
  | none =>
    rw [hdatabase] at h
    rw [h.2]
    exact refl_of (Opens paths) files
  | some file =>
    rw [hdatabase] at h
    obtain ⟨file', hcalled, rfl⟩ := h
    exact opens_put hpath (.extended hdatabase rfl (hcall file r file' hcalled))

/-- A call that returned found a database. -/
theorem uses_ok (h : files.Uses path call (.ok ()) files') : ∃ file file',
    (files.node path).database? = some file ∧ call file (.ok ()) file' ∧
      files' = files.write path file' := by
  unfold FileSystem.Uses at h
  cases hdatabase : (files.node path).database? with
  | none =>
    rw [hdatabase] at h
    obtain ⟨⟨e, he⟩, -⟩ := h
    cases he
  | some file =>
    rw [hdatabase] at h
    obtain ⟨file', hcalled, hfiles⟩ := h
    exact ⟨file, file', rfl, hcalled, hfiles⟩

theorem constructs_ended (h : Constructs repository key file r file') :
    (r = .ok () → Settled repository file') ∧ Extended file file' := by
  obtain ⟨o, c, hexec, rfl, rfl⟩ := h
  have hended := AdapterSchemas.construct_ended repository file.database o c
    (runsOn_execOn (fun c call => .answered call) hexec)
  cases o with
  | ret a =>
    obtain ⟨db', rfl, hopened⟩ := hended
    obtain ⟨t, htable, haccepts, hversion, -⟩ := hopened.table
    exact ⟨fun _ => ⟨t, htable, haccepts, hversion⟩, hopened.tables, fun _ h => h, fun _ h => h,
      fun _ h => h⟩
  | raise e =>
    obtain rfl : c = ⟨file.database, none⟩ := hended
    refine ⟨fun hraise => ?_, Extended.refl file⟩
    cases hraise

/-- A table that is there is opened as it is. -/
theorem openTable_same {ρ : Type} {columns : List TableSchemas.Column}
    {notInitialized unsupported : PyExn} {available : Bool} {table : Option (TableSchemas.Table ρ)}
    {opened t : TableSchemas.Table ρ}
    (h : ConfigurationDatabase.openTable columns notInitialized unsupported available table =
      .ok opened) (ht : table = some t) : some opened = some t := by
  rw [ConfigurationDatabase.openTable_ok h, ht]
  rfl

/-- The operations of the three constructors of the configuration. -/
inductive Opening : ConfigurationDatabase.Operation → Prop where
  | targets : Opening (.openTargets true)
  | accounts : Opening (.openAccounts true)
  | policies : Opening (.openPolicies true)

theorem configures_extended {op : ConfigurationDatabase.Operation} (hop : Opening op)
    (h : Configures op file r file') : Extended file file' := by
  unfold Configures at h
  cases hrun : op.run file.config with
  | error e =>
    rw [hrun] at h
    rw [h.2]
    exact .refl file
  | ok config =>
    rw [hrun] at h
    obtain ⟨-, rfl⟩ := h
    cases hop with
    | targets =>
      obtain ⟨opened, hopen, hrun⟩ := (except_bind_ok_iff _ _ _).mp hrun
      cases hrun
      exact ⟨List.prefix_rfl, fun _ => openTable_same hopen, fun _ h => h, fun _ h => h⟩
    | accounts =>
      obtain ⟨opened, hopen, hrun⟩ := (except_bind_ok_iff _ _ _).mp hrun
      cases hrun
      exact ⟨List.prefix_rfl, fun _ h => h, fun _ => openTable_same hopen, fun _ h => h⟩
    | policies =>
      obtain ⟨opened, hopen, hrun⟩ := (except_bind_ok_iff _ _ _).mp hrun
      cases hrun
      exact ⟨List.prefix_rfl, fun _ h => h, fun _ h => h, fun _ => openTable_same hopen⟩

end Adapters

section Start

variable {α : Type} {env : Environment} {files files' : FileSystem} {settings : RuntimeSettings}
  {paths : List RuntimePath} {vaultKey auditKey : Bytes} {c : RuntimeCall}

/-- `build_application` after its checks. -/
def openDatabases (settings : RuntimeSettings) (vaultKey : Bytes) : Setup ApplicationServices := do
  lift (newCipher vaultKey)
  ask (.openVault settings.vaultDbPath)
  ask (.openAudit settings.auditDbPath settings.auditIntegrityKeyPath)
  ask (.configure settings.configDbPath (.openPolicies true))
  ask (.configure settings.configDbPath (.openTargets true))
  ask (.configure settings.configDbPath (.openAccounts true))
  ask (.openUserAuth settings.authDbPath)
  let dummyHash ← ask .hashToken
  return ⟨settings, vaultKey, ⟨dummyHash⟩⟩

theorem ask_opens
    (hanswers : ∀ files r files', Answers env files c r files' → Opens paths files files')
    (hpath : ∀ path, databasePath c = some path → path ∈ paths) :
    Preserves (FileServer env) (Opens paths) (ask c) :=
  preserves_perform fun files _ files' hserve =>
    hserve.keeps (fun r hanswer => hanswers files r files' hanswer) fun hpartly =>
      partly_opens hpartly hpath

/-- A call that at most uses the database at its path, and loses nothing there. -/
theorem adapter_opens {path : RuntimePath} (hc : databasePath c = some path) (hpath : path ∈ paths)
    (hanswers : ∀ files r files', Answers env files c r files' → files' = files ∨
      ∃ call r', (∀ file r file', call file r file' → Extended file file') ∧
        files.Uses path call r' files') :
    Preserves (FileServer env) (Opens paths) (ask c) := by
  refine ask_opens (fun files r files' hanswer => ?_) fun other hother => ?_
  · rcases hanswers files r files' hanswer with rfl | ⟨call, r', hcall, huses⟩
    · exact refl_of (Opens paths) _
    · exact uses_opens hpath hcall huses
  · rw [hc] at hother
    cases hother
    exact hpath

theorem openAudit_opens {path keyPath : RuntimePath} (hpath : path ∈ paths) :
    Preserves (FileServer env) (Opens paths) (ask (.openAudit path keyPath)) := by
  apply adapter_opens rfl hpath
  intro files r files' hanswer
  cases hkey : (files.node keyPath).key with
  | error e =>
    simp only [Answers, hkey] at hanswer
    exact .inl hanswer.2
  | ok key =>
    simp only [Answers, hkey] at hanswer
    exact .inr ⟨_, _, fun _ _ _ hcalled => (constructs_ended hcalled).2, hanswer⟩

theorem configure_opens {path : RuntimePath} {op : ConfigurationDatabase.Operation}
    (hop : Opening op) (hpath : path ∈ paths) :
    Preserves (FileServer env) (Opens paths) (ask (.configure path op)) := by
  apply adapter_opens rfl hpath
  intro files r files' hanswer
  exact .inr ⟨_, _, fun _ _ _ hcalled => configures_extended hop hcalled, hanswer⟩

theorem openVault_opens {path : RuntimePath} (hpath : path ∈ paths) :
    Preserves (FileServer env) (Opens paths) (ask (.openVault path)) := by
  apply adapter_opens rfl hpath
  intro files r files' hanswer
  exact .inr ⟨_, _, fun _ _ _ hcalled => (constructs_ended hcalled).2, hanswer⟩

theorem openUserAuth_opens {path : RuntimePath} (hpath : path ∈ paths) :
    Preserves (FileServer env) (Opens paths) (ask (.openUserAuth path)) := by
  apply adapter_opens rfl hpath
  intro files r files' hanswer
  exact .inr ⟨_, _, fun _ _ _ hcalled => (constructs_ended hcalled).2, hanswer⟩

/-- However the constructors end, nothing is lost. -/
theorem openDatabases_opens (settings : RuntimeSettings) (vaultKey : Bytes) :
    Preserves (FileServer env) (Opens (databases settings)) (openDatabases settings vaultKey) := by
  have hconfig : settings.configDbPath ∈ databases settings := by simp [databases]
  unfold openDatabases
  refine (preserves_ofReply (S := runtimeSignature) (newCipher vaultKey)).bind fun _ => ?_
  refine (openVault_opens (by simp [databases])).bind fun _ => ?_
  refine (openAudit_opens (by simp [databases])).bind fun _ => ?_
  refine (configure_opens .policies hconfig).bind fun _ => ?_
  refine (configure_opens .targets hconfig).bind fun _ => ?_
  refine (configure_opens .accounts hconfig).bind fun _ => ?_
  refine (openUserAuth_opens (by simp [databases])).bind fun _ => ?_
  refine Preserves.bind (ask_opens (fun files r files' hanswer => ?_) ?_) fun dummyHash =>
    preserves_pure _
  · rw [hanswer.2]
    exact refl_of (Opens (databases settings)) files
  · rintro _ ⟨⟩

/-- A call of a start. -/
structure Starting (env : Environment) (settings : RuntimeSettings) (c : RuntimeCall) : Prop where
  opens : ∀ files r files', FileServer env files c r files' →
    Opens (databases settings) files files'
  database : ∀ path, databasePath c = some path → path ∈ databases settings

theorem starting_adapter {path : RuntimePath} (hc : databasePath c = some path)
    (hpath : path ∈ databases settings)
    (h : Preserves (FileServer env) (Opens (databases settings)) (ask c)) :
    Starting env settings c := by
  refine ⟨fun _ _ _ => h.call, fun other hother => ?_⟩
  rw [hc] at hother
  cases hother
  exact hpath

/-- A call that is for no database, and only looks at the files. -/
theorem starting_look (hc : databasePath c = none)
    (hsame : ∀ files r files', Answers env files c r files' → files' = files) :
    Starting env settings c := by
  have hnone (path : RuntimePath) (hpath : databasePath c = some path) :
      path ∈ databases settings := by
    rw [hc] at hpath
    cases hpath
  refine ⟨fun files r files' => (ask_opens (fun files r files' hanswer => ?_) hnone).call, hnone⟩
  rw [hsame files r files' hanswer]
  exact refl_of (Opens (databases settings)) files

theorem openDatabases_stops (env : Environment) (settings : RuntimeSettings) (vaultKey : Bytes) :
    Stops (Starting env settings) (openDatabases settings vaultKey) := by
  have hauth : settings.authDbPath ∈ databases settings := by simp [databases]
  have hconfig : settings.configDbPath ∈ databases settings := by simp [databases]
  have hvault : settings.vaultDbPath ∈ databases settings := by simp [databases]
  have haudit : settings.auditDbPath ∈ databases settings := by simp [databases]
  have hconfigure {op : ConfigurationDatabase.Operation} (hop : Opening op) :
      Starting env settings (.configure settings.configDbPath op) :=
    starting_adapter rfl hconfig (configure_opens hop hconfig)
  have hhash : Starting env settings .hashToken :=
    starting_look rfl fun _ _ _ hanswer => hanswer.2
  unfold openDatabases
  apply (stops_ofReply (S := runtimeSignature) (newCipher vaultKey)).bind
  intro _
  apply (stops_perform (starting_adapter rfl hvault (openVault_opens hvault))).bind
  intro _
  apply (stops_perform (starting_adapter rfl haudit (openAudit_opens haudit))).bind
  intro _
  apply (stops_perform (hconfigure .policies)).bind
  intro _
  apply (stops_perform (hconfigure .targets)).bind
  intro _
  apply (stops_perform (hconfigure .accounts)).bind
  intro _
  apply (stops_perform (starting_adapter rfl hauth (openUserAuth_opens hauth))).bind
  intro _
  apply (stops_perform hhash).bind
  intro dummyHash
  exact stops_pure _

theorem Apart.cleaned (h : Apart settings files) {path : RuntimePath}
    (hpath : path ∈ databases settings) : Clean files path :=
  ⟨h.named path hpath, fun other hside => h.clean other ⟨path, hpath, hside⟩⟩

/-- Where nothing stands beside the databases, a call that succeeds does what it does without
side files. -/
theorem sqlite_ok {a : c.Answer} (hc : Starting env settings c) (hapart : Apart settings files)
    (h : SqliteServer env files c (.ok a) files') :
    FileServer env files c (.ok a) files' ∧ Apart settings files' := by
  have hserved : FileServer env files c (.ok a) files' := by
    cases hdatabase : databasePath c with
    | none => exact sqlite_look hdatabase h
    | some path =>
      unfold SqliteServer at h
      rw [hdatabase] at h
      rcases h with ⟨-, files₁, hserve, rfl | ⟨⟨e, he⟩, -⟩⟩ | ⟨hunclean, -⟩
      · exact hserve
      · cases he
      · exact absurd (hapart.cleaned (hc.database path hdatabase)) hunclean
  exact ⟨hserved, hapart.opens (hc.opens _ _ _ hserved)⟩

/-- A call that fails leaves side files besides. -/
theorem sqlite_error {e : PyExn} (hc : Starting env settings c) (hapart : Apart settings files)
    (h : SqliteServer env files c (.error e) files') :
    ∃ files₁, FileServer env files c (.error e) files₁ ∧
      Agree (Beside settings files₁) files₁ files' := by
  have hsame (files : FileSystem) : Agree (Beside settings files) files files :=
    ⟨rfl, rfl, fun _ _ => rfl⟩
  cases hdatabase : databasePath c with
  | none => exact ⟨files', sqlite_look hdatabase h, hsame files'⟩
  | some path =>
    have hpath := hc.database path hdatabase
    unfold SqliteServer at h
    rw [hdatabase] at h
    rcases h with ⟨-, files₁, hserve, rfl | ⟨-, hagree⟩⟩ | ⟨hunclean, -⟩
    · exact ⟨files', hserve, hsame files'⟩
    · refine ⟨files₁, hserve, hagree.directory, hagree.canonical, fun other hother => ?_⟩
      apply hagree.node
      intro hside
      rw [beside_canonical (hc.opens _ _ _ hserve).canonical] at hother
      exact hother ⟨path, hpath, hside⟩
    · exact absurd (hapart.cleaned hpath) hunclean

end Start

section Checks

variable {α : Type} {env : Environment} {files : FileSystem} {settings : RuntimeSettings}
  {Q : Outcome runtimeSignature α → FileSystem → Prop}

/-- A call that only looks at the files, before anything has changed. -/
theorem ensuresOn_look {c : RuntimeCall} {k : c.Answer → Setup α}
    (hsame : ∀ r files', Answers env files c r files' → files' = files)
    (hpath : databasePath c = none)
    (hrest : ∀ a, Answers env files c (.ok a) files → EnsuresOn (SqliteServer env) (k a) files Q)
    (hraise : ∀ e, Q (.raise e) files) :
    EnsuresOn (SqliteServer env) (ask c >>= k) files Q := by
  have hpart {files' : FileSystem} (h : Partly files c files') : files' = files := by
    rcases h with h | ⟨path, hdatabase, -⟩
    · exact h
    · rw [hpath] at hdatabase
      cases hdatabase
  refine EnsuresOn.bind (P := fun o files' => files' = files ∧
    ∀ a, o = .ret a → Answers env files c (.ok a) files) ?_ ?_ ?_
  · refine ensuresOn_perform (fun a files' hserve => ?_) fun e files' hserve => ?_
    · have hanswer := faulty_ok (sqlite_look hpath hserve)
      obtain rfl := hsame _ _ hanswer
      refine ⟨rfl, fun b hret => ?_⟩
      cases hret
      exact hanswer
    · have hfiles := (sqlite_look hpath hserve).keeps (Q := fun files' => files' = files)
        (fun r hanswer => hsame r files' hanswer) hpart
      exact ⟨hfiles, fun b hret => by cases hret⟩
  · intro a files' hlooked
    obtain ⟨rfl, hanswer⟩ := hlooked
    exact hrest a (hanswer a rfl)
  · intro e files' hlooked
    rw [hlooked.1]
    exact hraise e

theorem resolveAll_look (paths : List RuntimePath) {k : List RuntimePath → Setup α}
    (hrest : EnsuresOn (SqliteServer env) (k (paths.map files.resolve)) files Q)
    (hraise : ∀ e, Q (.raise e) files) :
    EnsuresOn (SqliteServer env) (resolveAll paths >>= k) files Q := by
  induction paths generalizing k with
  | nil => exact hrest
  | cons path paths ih =>
    unfold resolveAll
    simp only [bind_assoc, pure_bind]
    refine ensuresOn_look (fun r files' hanswer => hanswer.2) rfl (fun a hanswer => ?_) hraise
    obtain rfl := Except.ok.inj hanswer.1
    exact ih hrest

theorem validateDistinctPaths_look (paths : List RuntimePath) (message : String)
    {k : Unit → Setup α}
    (hrest : (paths.map files.resolve).Nodup → EnsuresOn (SqliteServer env) (k ()) files Q)
    (hraise : ∀ e, Q (.raise e) files) :
    EnsuresOn (SqliteServer env) (validateDistinctPaths paths message >>= k) files Q := by
  unfold validateDistinctPaths
  rw [bind_assoc]
  refine resolveAll_look paths ?_ hraise
  by_cases hlength : (paths.map files.resolve).dedup.length = (paths.map files.resolve).length
  · have hnodup : (paths.map files.resolve).Nodup :=
      List.dedup_eq_self.mp ((List.dedup_sublist _).eq_of_length hlength)
    rw [if_neg (not_not_intro hlength)]
    exact hrest hnodup
  · rw [if_pos hlength]
    exact ensuresOn_raise (S := runtimeSignature) _ (hraise _)

theorem getKey_look {path : RuntimePath} {k : Bytes → Setup α}
    (hrest : ∀ key, (files.node path).key = .ok key → EnsuresOn (SqliteServer env) (k key) files Q)
    (hraise : ∀ e, Q (.raise e) files) :
    EnsuresOn (SqliteServer env) (ask (.getKey path) >>= k) files Q :=
  ensuresOn_look (fun _ _ hanswer => hanswer.2) rfl
    (fun key hanswer => hrest key hanswer.1.symm) hraise

end Checks

section Checked

variable {env : Environment} {files : FileSystem} {settings : RuntimeSettings}
  {Q : Outcome runtimeSignature ApplicationServices → FileSystem → Prop}

/-- Nothing is opened before everything was checked. -/
theorem buildApplication_checked
    (hrest : ∀ vaultKey auditKey, Admissible settings files vaultKey auditKey →
      EnsuresOn (SqliteServer env) (openDatabases settings vaultKey) files Q)
    (hraise : ∀ e, Q (.raise e) files) :
    EnsuresOn (SqliteServer env) (buildApplication settings) files Q := by
  unfold buildApplication
  refine validateDistinctPaths_look _ _ (fun hkeyPaths => ?_) hraise
  refine validateDistinctPaths_look _ _ (fun hdatabasePaths => ?_) hraise
  refine getKey_look (fun vaultKey hvaultKey => getKey_look (fun auditKey hauditKey => ?_) hraise)
    hraise
  by_cases hkeys : vaultKey = auditKey
  · rw [if_pos hkeys]
    exact ensuresOn_raise (S := runtimeSignature) _ (hraise _)
  · rw [if_neg hkeys]
    refine hrest vaultKey auditKey ⟨fun hsame => ?_, hdatabasePaths, hvaultKey, hauditKey, hkeys⟩
    simp [hsame] at hkeyPaths

end Checked

section Opened

variable {env : Environment} {files files' : FileSystem} {settings : RuntimeSettings}
  {path : RuntimePath} {P : SqliteFile → Prop} {vaultKey auditKey : Bytes}

/-- Writing one database leaves another one as it is. -/
theorem Stored.write (h : Stored files path P) {other : RuntimePath} (hother : path ≠ other)
    (file : SqliteFile) : Stored (files.write other file) path P := by
  obtain ⟨stored, hnode, hP⟩ := h
  refine ⟨stored, ?_, hP⟩
  rw [FileSystem.write, files.node_put_of_ne _ hother]
  exact hnode

theorem stored_write (files : FileSystem) (path : RuntimePath) {file : SqliteFile} (h : P file) :
    Stored (files.write path file) path P :=
  ⟨file, files.node_put_self path _, h⟩

/-- A constructor that returned has left its table. -/
theorem constructor_stored {c : RuntimeCall} {repository : Repository}
    (hanswers : ∀ a files', Answers env files c (.ok a) files' →
      ∃ key, files.Uses path (Constructs repository key) (.ok ()) files') :
    Returns (FileServer env) (ask c) files fun _ files' =>
      ∃ file, Settled repository file ∧ files' = files.write path file := by
  refine returns_perform fun a files' hserve => ?_
  obtain ⟨key, huses⟩ := hanswers a files' (faulty_ok hserve)
  obtain ⟨file, file', -, hcalled, hfiles⟩ := uses_ok huses
  exact ⟨file', (constructs_ended hcalled).1 rfl, hfiles⟩

theorem openVault_stored (path : RuntimePath) :
    Returns (FileServer env) (ask (.openVault path)) files fun _ files' =>
      ∃ file, Settled .vault file ∧ files' = files.write path file :=
  constructor_stored fun _ _ hanswer => ⟨.none, hanswer⟩

theorem openUserAuth_stored (path : RuntimePath) :
    Returns (FileServer env) (ask (.openUserAuth path)) files fun _ files' =>
      ∃ file, Settled .userAuth file ∧ files' = files.write path file :=
  constructor_stored fun _ _ hanswer => ⟨.none, hanswer⟩

theorem openAudit_stored (path keyPath : RuntimePath) :
    Returns (FileServer env) (ask (.openAudit path keyPath)) files fun _ files' =>
      ∃ file, Settled .audit file ∧ files' = files.write path file := by
  apply constructor_stored
  intro _ files' hanswer
  cases hkey : (files.node keyPath).key with
  | error e =>
    simp only [Answers, hkey] at hanswer
    obtain ⟨⟨e, he⟩, -⟩ := hanswer
    cases he
  | ok key =>
    simp only [Answers, hkey] at hanswer
    exact ⟨.bytes key, hanswer⟩

theorem configure_stored (path : RuntimePath) (op : ConfigurationDatabase.Operation) :
    Returns (FileServer env) (ask (.configure path op)) files fun _ files' =>
      ∃ file file', (files.node path).database? = some file ∧
        op.run file.config = .ok file'.config ∧ files' = files.write path file' := by
  refine returns_perform fun _ files' hserve => ?_
  obtain ⟨file, file', hdatabase, hcalled, hfiles⟩ := uses_ok (faulty_ok hserve)
  obtain ⟨config, hrun, rfl⟩ := configures_ok hcalled
  exact ⟨file, _, hdatabase, hrun, hfiles⟩

theorem database_write (files : FileSystem) (path : RuntimePath) {file found : SqliteFile}
    (h : ((files.write path file).node path).database? = some found) : found = file := by
  rw [FileSystem.write, FileSystem.node_put_self] at h
  exact (Option.some.inj h).symm

/-- A constructor leaves the tables of the others. -/
theorem complete_reopened {db db₁ db₂ db₃ : ConfigurationDatabase.ConfigDb}
    (hpolicies : (ConfigurationDatabase.Operation.openPolicies true).run db = .ok db₁)
    (htargets : (ConfigurationDatabase.Operation.openTargets true).run db₁ = .ok db₂)
    (haccounts : (ConfigurationDatabase.Operation.openAccounts true).run db₂ = .ok db₃) :
    Complete db₃ := by
  obtain ⟨policies, hopenPolicies, h⟩ := (except_bind_ok_iff _ _ _).mp hpolicies
  cases h
  obtain ⟨targets, hopenTargets, h⟩ := (except_bind_ok_iff _ _ _).mp htargets
  cases h
  obtain ⟨accounts, hopenAccounts, h⟩ := (except_bind_ok_iff _ _ _).mp haccounts
  cases h
  exact ⟨openTable_expected hopenTargets, openTable_expected hopenAccounts,
    openTable_expected hopenPolicies⟩

theorem Admissible.distinct (h : Admissible settings files vaultKey auditKey) :
    (databases settings).Nodup :=
  h.databasePaths.of_map _

/-- A start that returns has every database open. -/
theorem openDatabases_running (h : Admissible settings files vaultKey auditKey) :
    Returns (FileServer env) (openDatabases settings vaultKey) files fun services files' =>
      services.settings = settings ∧ services.vaultKey = vaultKey ∧ Running settings files' := by
  have hdistinct := h.distinct
  simp only [databases, List.nodup_cons, List.mem_cons, List.not_mem_nil, or_false, not_or,
    not_false_eq_true, List.nodup_nil, and_true] at hdistinct
  obtain ⟨⟨hauthConfig, hauthVault, hauthAudit⟩, ⟨hconfigVault, hconfigAudit⟩, hvaultAudit⟩ :=
    hdistinct
  unfold openDatabases
  refine Returns.bind (P := fun _ files' => files' = files) ?_ ?_
  · exact returns_ofReply fun _ _ => rfl
  intro _ files₁ hsame
  rw [hsame]
  refine (openVault_stored _).bind ?_
  rintro _ _ ⟨vault, hvault, rfl⟩
  refine (openAudit_stored _ _).bind ?_
  rintro _ _ ⟨audit, haudit, rfl⟩
  refine (configure_stored _ _).bind ?_
  rintro _ _ ⟨_, config₁, -, hpolicies, rfl⟩
  refine (configure_stored _ _).bind ?_
  rintro _ _ ⟨_, config₂, hfound₁, htargets, rfl⟩
  obtain rfl := (database_write _ _ hfound₁).symm
  refine (configure_stored _ _).bind ?_
  rintro _ _ ⟨_, config₃, hfound₂, haccounts, rfl⟩
  obtain rfl := (database_write _ _ hfound₂).symm
  have hcomplete := complete_reopened hpolicies htargets haccounts
  refine (openUserAuth_stored _).bind ?_
  rintro _ _ ⟨auth, hauth, rfl⟩
  refine Returns.bind (returns_perform fun _ _ hserve => (faulty_ok hserve).2) ?_
  rintro dummyHash _ rfl
  refine returns_pure ⟨rfl, rfl, stored_write _ _ hauth, ?_, ?_, ?_⟩
  · exact (stored_write _ _ hcomplete).write (Ne.symm hauthConfig) auth
  · have hstored := (stored_write files settings.vaultDbPath hvault).write hvaultAudit audit
    have hconfig := ((hstored.write (Ne.symm hconfigVault) config₁).write
      (Ne.symm hconfigVault) config₂).write (Ne.symm hconfigVault) config₃
    exact hconfig.write (Ne.symm hauthVault) auth
  · have hstored :=
      stored_write (files.write settings.vaultDbPath vault) settings.auditDbPath haudit
    have hconfig := ((hstored.write (Ne.symm hconfigAudit) config₁).write
      (Ne.symm hconfigAudit) config₂).write (Ne.symm hconfigAudit) config₃
    exact hconfig.write (Ne.symm hauthAudit) auth

end Opened

section Again

variable {α : Type} {env : Environment} {files : FileSystem} {settings : RuntimeSettings}
  {path : RuntimePath} {vaultKey auditKey : Bytes} {key : PyValue} {repository : Repository}
  {Q : Outcome runtimeSignature α → FileSystem → Prop} {p : Unit → Setup α}

theorem validateDistinctPaths_again {paths : List RuntimePath} {message : String}
    (h : (paths.map files.resolve).Nodup) (hrest : TotalOn (Answers env) Q (p ()) files) :
    TotalOn (Answers env) Q (validateDistinctPaths paths message >>= p) files := by
  unfold validateDistinctPaths
  rw [bind_assoc]
  apply resolveAll_total
  rw [List.dedup_eq_self.mpr h]
  simpa using hrest

/-- A call that writes what it has read changes nothing. -/
theorem Stored.again {P : SqliteFile → Prop} (h : Stored files path P)
    {call : SqliteFile → Except PyExn Unit → SqliteFile → Prop}
    (hcall : ∀ file, P file → ∀ r file', call file r file' ↔ r = .ok () ∧ file' = file)
    (r : Except PyExn Unit) (files' : FileSystem) :
    files.Uses path call r files' ↔ r = .ok () ∧ files' = files := by
  obtain ⟨file, hnode, hP⟩ := h
  have hdatabase : (files.node path).database? = some file := by
    rw [hnode]
    rfl
  have hwrite : files.write path file = files := by
    rw [FileSystem.write, FileSystem.put, ← hnode, Function.update_eq_self]
  rw [FileSystem.Uses, hdatabase]
  simp only [hcall file hP]
  constructor
  · rintro ⟨_, ⟨rfl, rfl⟩, rfl⟩
    exact ⟨rfl, hwrite⟩
  · rintro ⟨rfl, rfl⟩
    exact ⟨file, ⟨rfl, rfl⟩, hwrite.symm⟩

theorem constructs_settled (hkey : KeyFor key repository) (file : SqliteFile)
    (h : Settled repository file) (r : Except PyExn Unit) (file' : SqliteFile) :
    Constructs repository key file r file' ↔ r = .ok () ∧ file' = file := by
  obtain ⟨t, htable, haccepts, hversion⟩ := h
  exact constructs_iff (AdapterSchemas.execOn_construct htable haccepts hversion hkey)

theorem configure_again {op : ConfigurationDatabase.Operation} (hop : Opening op)
    (h : Stored files path fun file => Complete file.config)
    (hrest : TotalOn (Answers env) Q (p ()) files) :
    TotalOn (Answers env) Q (ask (.configure path op) >>= p) files := by
  refine totalOn_answer (c := .configure path op) (h.again fun file hcomplete r file' => ?_) hrest
  obtain ⟨htargets, haccounts, hpolicies⟩ := run_unchanged hcomplete
  cases hop with
  | targets => exact configures_iff htargets
  | accounts => exact configures_iff haccounts
  | policies => exact configures_iff hpolicies

/-- The next start finds everything as it needs it. -/
theorem buildApplication_again (hreliable : env.Reliable)
    (h : Admissible settings files vaultKey auditKey) (hrunning : Running settings files) :
    TotalOn (Answers env) (fun o files' => files' = files ∧ ∃ services, o = .ret services ∧
        services.settings = settings ∧ services.vaultKey = vaultKey)
      (buildApplication settings) files := by
  have hvaultKey : KeyFor .none .vault := fun hrole => by cases hrole
  have hauthKey : KeyFor .none .userAuth := fun hrole => by cases hrole
  have hauditKey : KeyFor (.bytes auditKey) .audit := fun _ =>
    ⟨auditKey, if_pos (key_regular h.readsAuditKey).2⟩
  unfold buildApplication
  refine validateDistinctPaths_again (by simpa using h.keyPaths) ?_
  refine validateDistinctPaths_again h.databasePaths ?_
  refine getKey_total h.readsVaultKey (getKey_total h.readsAuditKey ?_)
  have hcipher : newCipher vaultKey = .ok () := if_pos (key_regular h.readsVaultKey).2
  rw [if_neg h.different, hcipher]
  refine totalOn_answer (c := .openVault _)
    (hrunning.vault.again fun file => constructs_settled hvaultKey file) ?_
  have haudit : ∀ r files', Answers env files
      (.openAudit settings.auditDbPath settings.auditIntegrityKeyPath) r files' ↔
        r = .ok () ∧ files' = files := by
    simp only [Answers, h.readsAuditKey]
    exact hrunning.audit.again fun file => constructs_settled hauditKey file
  refine totalOn_answer (c := .openAudit _ _) haudit ?_
  refine configure_again .policies hrunning.config (configure_again .targets hrunning.config
    (configure_again .accounts hrunning.config ?_))
  refine totalOn_answer (c := .openUserAuth _)
    (hrunning.auth.again fun file => constructs_settled hauthKey file) ?_
  exact hashToken_total hreliable fun hash => ⟨rfl, _, rfl, rfl, rfl⟩

end Again

/-- Whatever the settings name and however the start ends, nothing is lost; where it returned,
the next start returns too. -/
theorem buildApplication_safe (env : Environment) (settings : RuntimeSettings)
    (files : FileSystem) (hapart : Apart settings files) :
    EnsuresOn (SqliteServer env) (buildApplication settings) files fun o files' =>
      Leaves settings files files' ∧
      (∀ vaultKey auditKey, Admissible settings files vaultKey auditKey →
        Admissible settings files' vaultKey auditKey) ∧
      ((¬ ∃ vaultKey auditKey, Admissible settings files vaultKey auditKey) →
        files' = files ∧ ∃ e, o = .raise e) ∧
      ∀ services, o = .ret services →
        services.settings = settings ∧ Running settings files' ∧ Apart settings files' ∧
        (∃ auditKey, Admissible settings files services.vaultKey auditKey) ∧
        (env.Reliable → TotalOn (Answers env) (fun o' files'' => files'' = files' ∧
            ∃ services', o' = .ret services' ∧ services'.settings = settings ∧
              services'.vaultKey = services.vaultKey)
          (buildApplication settings) files') := by
  refine buildApplication_checked (fun vaultKey auditKey hadmissible => ?_) fun e => ?_
  · intro o files' hrun
    have hstops := openDatabases_stops env settings vaultKey
    have hopening : Preserves (FileServer env) (Opens (databases settings))
        (openDatabases settings vaultKey) := openDatabases_opens settings vaultKey
    rcases hstops.simulated (fun _ _ _ _ => sqlite_ok) (fun _ _ _ _ => sqlite_error) hapart hrun
      with ⟨hsame, hapart'⟩ | ⟨e, files₁, rfl, hother, hagree⟩
    · have hleaves := (hopening files o files' hsame).leaves
      refine ⟨hleaves, fun _ _ h => h.leaves hapart hleaves, fun hnone => ?_,
        fun services hret => ?_⟩
      · exact absurd ⟨vaultKey, auditKey, hadmissible⟩ hnone
      · subst hret
        obtain ⟨hsettings, rfl, hrunning⟩ :=
          openDatabases_running hadmissible services files' hsame
        exact ⟨hsettings, hrunning, hapart', ⟨auditKey, hadmissible⟩, fun hreliable =>
          buildApplication_again hreliable (hadmissible.leaves hapart hleaves) hrunning⟩
    · -- a call has failed, and its transaction may have been cut off
      have hleaves := (hopening files _ files₁ hother).leaves.agree hagree
      refine ⟨hleaves, fun _ _ h => h.leaves hapart hleaves, fun hnone => ?_,
        fun services hret => by cases hret⟩
      exact absurd ⟨vaultKey, auditKey, hadmissible⟩ hnone
  · exact ⟨(refl_of (Opens (databases settings)) files).leaves, fun _ _ h => h,
      fun _ => ⟨rfl, e, rfl⟩, fun services hret => by cases hret⟩

section Example

open AdapterSchemas CreatedTables
open ConfigurationDatabase (ConfigDb targetColumns accountColumns policyColumns)
open ProvisionedAccess (exampleConfig exampleEnv exampleEnv_reliable emptyFiles)

theorem resolveAll_stops (env : Environment) (settings : RuntimeSettings)
    (paths : List RuntimePath) : Stops (Starting env settings) (resolveAll paths) := by
  induction paths with
  | nil => exact stops_pure _
  | cons path paths ih =>
    have hresolve : Starting env settings (.resolve path) :=
      starting_look rfl fun _ _ _ hanswer => hanswer.2
    apply (stops_perform hresolve).bind
    intro canonical
    apply ih.bind
    exact fun canonicals => stops_pure _

theorem validateDistinctPaths_stops (env : Environment) (settings : RuntimeSettings)
    (paths : List RuntimePath) (message : String) :
    Stops (Starting env settings) (validateDistinctPaths paths message) := by
  apply (resolveAll_stops env settings paths).bind
  intro canonicalPaths
  split_ifs
  · exact stops_raise (S := runtimeSignature) _
  · exact stops_pure _

theorem buildApplication_stops (env : Environment) (settings : RuntimeSettings) :
    Stops (Starting env settings) (buildApplication settings) := by
  have hgetKey (path : RuntimePath) : Starting env settings (.getKey path) :=
    starting_look rfl fun _ _ _ hanswer => hanswer.2
  unfold buildApplication
  apply (validateDistinctPaths_stops env settings _ _).bind
  intro _
  apply (validateDistinctPaths_stops env settings _ _).bind
  intro _
  apply (stops_perform (hgetKey _)).bind
  intro vaultKey
  apply (stops_perform (hgetKey _)).bind
  intro auditKey
  split_ifs
  · exact stops_raise (S := runtimeSignature) _
  · exact openDatabases_stops env settings vaultKey

def exampleSettings : RuntimeSettings where
  authDbPath := Role.auth.path exampleConfig.runtimeDir
  configDbPath := Role.config.path exampleConfig.runtimeDir
  vaultDbPath := Role.vault.path exampleConfig.runtimeDir
  auditDbPath := Role.audit.path exampleConfig.runtimeDir
  vaultKeyPath := vaultKeyPath exampleConfig.runtimeDir
  auditIntegrityKeyPath := auditKeyPath exampleConfig.runtimeDir
  maxSessionDuration := 60000000
  maxSessionDuration_pos := by decide

def exampleVaultKey : Bytes := List.replicate 32 1

def exampleAuditKey : Bytes := List.replicate 32 2

/-- A database with the empty table of a repository. -/
def exampleFile (repository : Repository) : SqliteFile :=
  ⟨createdIn emptyFile repository.created repository.schemaVersion, ConfigDb.empty⟩

def exampleConfigFile : SqliteFile :=
  ⟨emptyFile, some ⟨targetColumns, []⟩, some ⟨accountColumns, []⟩, some ⟨policyColumns, []⟩⟩

/-- Two keys and four databases without rows. -/
def exampleFiles : FileSystem :=
  (((((emptyFiles.put (vaultKeyPath exampleConfig.runtimeDir)
    (.regular 0o600 (.bytes exampleVaultKey))).put (auditKeyPath exampleConfig.runtimeDir)
    (.regular 0o600 (.bytes exampleAuditKey))).write exampleSettings.authDbPath
    (exampleFile .userAuth)).write exampleSettings.configDbPath exampleConfigFile).write
    exampleSettings.vaultDbPath (exampleFile .vault)).write exampleSettings.auditDbPath
    (exampleFile .audit)

theorem exampleFile_settled (repository : Repository) :
    Settled repository (exampleFile repository) := by
  refine ⟨⟨repository.created, []⟩, ?_, created_accepted repository, rfl⟩
  rw [← created_name]
  exact table?_createdIn _ rfl

theorem exampleFiles_running : Running exampleSettings exampleFiles where
  auth := ⟨_, rfl, exampleFile_settled .userAuth⟩
  config := ⟨exampleConfigFile, rfl, ⟨_, rfl, rfl⟩, ⟨_, rfl, rfl⟩, ⟨_, rfl, rfl⟩⟩
  vault := ⟨_, rfl, exampleFile_settled .vault⟩
  audit := ⟨_, rfl, exampleFile_settled .audit⟩

theorem exampleFiles_admissible :
    Admissible exampleSettings exampleFiles exampleVaultKey exampleAuditKey where
  keyPaths := by decide
  databasePaths := by decide
  readsVaultKey := rfl
  readsAuditKey := rfl
  different := by decide

/-- The names that start with that of a database are not in use. -/
theorem exampleFiles_beside {path : RuntimePath} (h : Beside exampleSettings exampleFiles path) :
    exampleFiles.node path = .absent ∧ path ∉ databases exampleSettings ∧
      path ≠ exampleSettings.vaultKeyPath ∧ path ≠ exampleSettings.auditIntegrityKeyPath := by
  obtain ⟨directory, name⟩ := path
  obtain ⟨database, hdatabase, hdirectory, suffix, hsuffix, hname⟩ := h
  obtain rfl : directory = database.directory := hdirectory
  obtain rfl : name = database.name ++ suffix := hname
  simp only [databases, List.mem_cons, List.not_mem_nil, or_false] at hdatabase
  simp only [sideSuffixes, List.mem_cons, List.not_mem_nil, or_false] at hsuffix
  rcases hdatabase with rfl | rfl | rfl | rfl <;> rcases hsuffix with rfl | rfl | rfl <;>
    exact ⟨rfl, by decide, by decide, by decide⟩

theorem exampleFiles_apart : Apart exampleSettings exampleFiles where
  named := by decide
  vaultKey h := (exampleFiles_beside h).2.2.1 rfl
  auditKey h := (exampleFiles_beside h).2.2.2 rfl
  database path hpath h := (exampleFiles_beside h).2.1 hpath
  clean _ h := (exampleFiles_beside h).1

/-- Without failures a call of a start leaves no side files. -/
theorem answers_sqlite {env : Environment} {settings : RuntimeSettings} {files files' : FileSystem}
    {c : RuntimeCall} {a : c.Answer} (hc : Starting env settings c) (hapart : Apart settings files)
    (h : Answers env files c (.ok a) files') :
    SqliteServer env files c (.ok a) files' ∧ Apart settings files' := by
  refine ⟨?_, hapart.opens (hc.opens _ _ _ (.inl h))⟩
  unfold SqliteServer
  cases hdatabase : databasePath c with
  | none => exact .inl h
  | some path => exact .inl ⟨hapart.cleaned (hc.database path hdatabase), files', .inl h, .inl rfl⟩

theorem buildApplication_safe_example : ∃ services files',
    RunsOn (SqliteServer exampleEnv) (buildApplication exampleSettings) exampleFiles
      (.ret services) files' ∧
    Leaves exampleSettings exampleFiles files' ∧ Running exampleSettings files' ∧
      Apart exampleSettings files' := by
  have hstarts := buildApplication_again exampleEnv_reliable exampleFiles_admissible
    exampleFiles_running
  obtain ⟨o, files', hrun⟩ := hstarts.runs
  obtain ⟨-, services, rfl, -⟩ := hstarts.ensures o files' hrun
  have hstarted := (buildApplication_stops exampleEnv exampleSettings).returned
    (fun _ _ _ _ => answers_sqlite) exampleFiles_apart hrun
  obtain ⟨hleaves, -, -, hreturned⟩ := buildApplication_safe exampleEnv exampleSettings exampleFiles
    exampleFiles_apart _ _ hstarted
  obtain ⟨-, hrunning, hapart, -⟩ := hreturned services rfl
  exact ⟨services, files', hstarted, hleaves, hrunning, hapart⟩

end Example

end PamMvp.StartupSafety
