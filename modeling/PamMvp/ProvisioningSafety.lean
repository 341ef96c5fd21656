import PamMvp.LabProvisioning
import PamMvp.PreservingPrograms

/-!
# What provisioning does not touch

Each call changes at most the file it names, also when it fails; SQLite may write or remove its
side files. However a run of `provision_lab` ends, what was there before is as it was, and what
is new lies in the runtime directory and was owner-only before anything was written to it, or is
a directory that contains it. Where a database exists the run raises before it creates a key.
-/
namespace PamMvp.ProvisioningSafety
open InteractionPrograms SharedPrograms PreservingPrograms PythonText DomainModel
  UserAuthentication RuntimeConfiguration RuntimeFiles LabProvisioning

section Server

/-- An adapter creates a private file, or writes to a file that it makes private. -/
inductive Rewritten : Node → Node → Prop where
  | created (content : Content) : Rewritten .absent (.regular 0o600 content)
  | written (permissions : ℕ) (content content' : Content) :
    Rewritten (.regular permissions content) (.regular 0o600 content')

/-- How a call may change a file. -/
def Changes : RuntimeCall → RuntimePath → Node → Node → Prop
  | .fchmod (.file target) mode, path, before, after => path = target ∧ after = before.chmod mode
  | .createKey target, path, before, after =>
    path = target ∧ before = .absent ∧ ∃ permissions, after = .regular permissions (.bytes [])
  | .writeKey (.file target) _, path, before, after =>
    path = target ∧ ∃ permissions content data,
      before = .regular permissions content ∧ after = .regular permissions (.bytes data)
  | .openAudit target _, path, before, after => path = target ∧ Rewritten before after
  | .openUserAuth target, path, before, after => path = target ∧ Rewritten before after
  | .openVault target, path, before, after => path = target ∧ Rewritten before after
  | .configure target _, path, before, after => path = target ∧ Rewritten before after
  | .createUser target _ _, path, before, after => path = target ∧ Rewritten before after
  | .storeCredential target _ _ _, path, before, after => path = target ∧ Rewritten before after
  | _, _, _, _ => False

/-- How a call may change a directory. -/
def ChangesDirectory : RuntimeCall → PyStr → Node → Node → Prop
  | .mkdir target _, directory, before, after =>
    directory ∈ target :: parents target ∧ before = .absent ∧
      ∃ permissions, after = .directory permissions
  | .fchmod (.directory target) mode, directory, before, after =>
    directory = target ∧ after = before.chmod mode
  | _, _, _, _ => False

/-- The path is that of a side file of the database that the call works on. -/
def Beside (files : FileSystem) (c : RuntimeCall) (path : RuntimePath) : Prop :=
  ∃ database, databasePath c = some database ∧ files.Side database path

structure Confined (files : FileSystem) (c : RuntimeCall) (files' : FileSystem) : Prop where
  canonical : files'.canonical = files.canonical
  node : ∀ path, files'.node path = files.node path ∨
    Changes c path (files.node path) (files'.node path) ∨ Beside files c path
  directory : ∀ directory, files'.directory directory = files.directory directory ∨
    ChangesDirectory c directory (files.directory directory) (files'.directory directory)

/-- Only side files of the database differ. -/
structure Sided (files : FileSystem) (c : RuntimeCall) (files' : FileSystem) : Prop where
  canonical : files'.canonical = files.canonical
  node : ∀ path, files'.node path = files.node path ∨ Beside files c path
  directory : files'.directory = files.directory

/-- SQLite leaves any side files, and a call that fails may have done a part of its work. -/
def Serves (env : Environment) : Server runtimeSignature FileSystem := fun files c r files' =>
  (∃ files₁, Answers env files c r files₁ ∧ Sided files₁ c files') ∨
    (∃ e, r = .error e) ∧ Confined files c files'

variable {env : Environment} {files files₁ files' : FileSystem}

theorem confined_same (files : FileSystem) (c : RuntimeCall) : Confined files c files :=
  ⟨rfl, fun _ => .inl rfl, fun _ => .inl rfl⟩

theorem sided_same (files : FileSystem) (c : RuntimeCall) : Sided files c files :=
  ⟨rfl, fun _ => .inl rfl, rfl⟩

/-- Only a database has side files. -/
theorem Sided.eq {c : RuntimeCall} (h : Sided files c files') (hc : databasePath c = none) :
    files' = files := by
  have hnode : files'.node = files.node := by
    funext path
    refine (h.node path).resolve_right fun hbeside => ?_
    obtain ⟨database, hdatabase, -⟩ := hbeside
    rw [hc] at hdatabase
    cases hdatabase
  cases files
  cases files'
  obtain ⟨hcanonical, -, hdirectory⟩ := h
  simp_all

theorem Confined.sided {c : RuntimeCall} (h : Confined files c files₁)
    (hsided : Sided files₁ c files') : Confined files c files' := by
  refine ⟨hsided.canonical.trans h.canonical, fun path => ?_, fun directory => ?_⟩
  · rcases hsided.node path with hsame | ⟨database, hdatabase, hside⟩
    · rw [hsame]
      exact h.node path
    · rw [FileSystem.Side, h.canonical] at hside
      exact .inr (.inr ⟨database, hdatabase, hside⟩)
  · rw [hsided.directory]
    exact h.directory directory

theorem confined_put {c : RuntimeCall} {path : RuntimePath} {node : Node}
    (h : Changes c path (files.node path) node) : Confined files c (files.put path node) := by
  refine ⟨rfl, fun other => ?_, fun _ => .inl rfl⟩
  by_cases hpath : other = path
  · subst hpath
    rw [FileSystem.node_put_self]
    exact .inr (.inl h)
  · exact .inl (files.node_put_of_ne node hpath)

theorem confined_put_same {c : RuntimeCall} {path : RuntimePath} {node : Node}
    (h : files.node path = node) : Confined files c (files.put path node) := by
  rw [← h, FileSystem.put, Function.update_eq_self]
  exact confined_same files c

theorem confined_putDirectory {c : RuntimeCall} {path : PyStr} {node : Node}
    (h : ChangesDirectory c path (files.directory path) node) :
    Confined files c (files.putDirectory path node) := by
  refine ⟨rfl, fun _ => .inl rfl, fun other => ?_⟩
  by_cases hpath : other = path
  · subst hpath
    rw [files.directory_putDirectory_self]
    exact .inr h
  · exact .inl (files.directory_putDirectory_of_ne node hpath)

theorem confined_made {target : PyStr} (mode : ℕ)
    (h : Made (target :: parents target) files files') :
    Confined files (.mkdir target mode) files' :=
  ⟨h.canonical, fun path => .inl (congrFun h.node path), h.directory⟩

theorem rewritten_database {node : Node} {file : SqliteFile} (h : node.database? = some file)
    (content : Content) : Rewritten node (.regular 0o600 content) := by
  cases node with
  | absent => exact .created content
  | regular permissions before => exact .written permissions before content
  | _ => cases h

theorem Rewritten.owner_only {node node' : Node} (h : Rewritten node node') :
    ∃ content, node' = .regular 0o600 content := by
  cases h with
  | created content => exact ⟨content, rfl⟩
  | written permissions content content' => exact ⟨content', rfl⟩

/-- A call of an adapter writes its own database. -/
theorem confined_uses {c : RuntimeCall} {path : RuntimePath} {r : Except PyExn Unit}
    {call : SqliteFile → Except PyExn Unit → SqliteFile → Prop}
    (h : files.Uses path call r files')
    (hc : ∀ before after, Rewritten before after → Changes c path before after) :
    Confined files c files' := by
  unfold FileSystem.Uses at h
  cases hdatabase : (files.node path).database? with
  | none =>
    rw [hdatabase] at h
    rw [h.2]
    exact confined_same files c
  | some file =>
    rw [hdatabase] at h
    obtain ⟨file', -, rfl⟩ := h
    apply confined_put
    apply hc
    exact rewritten_database hdatabase _

theorem answers_confined {c : RuntimeCall} {r : Reply runtimeSignature c}
    (h : Answers env files c r files') : Confined files c files' := by
  have hsame {d : FileSystem} (h : d = files) : Confined files c d := by
    rw [h]
    exact confined_same files c
  cases c with
  | mkdir path mode => exact confined_made mode (Makes.made h)
  | openDirectory path =>
    simp only [Answers] at h
    split at h
    · exact hsame h.2
    · exact hsame h.2
  | fchmod descriptor mode =>
    cases descriptor with
    | directory path =>
      obtain ⟨-, rfl⟩ := h
      exact confined_putDirectory ⟨rfl, rfl⟩
    | file path =>
      obtain ⟨-, rfl⟩ := h
      exact confined_put ⟨rfl, rfl⟩
  | fstat descriptor =>
    cases descriptor with
    | directory path => exact hsame h.2
    | file path => exact hsame h.2
  | createKey path =>
    simp only [Answers] at h
    split at h
    · rename_i hnode
      obtain ⟨-, permissions, rfl⟩ := h
      exact confined_put ⟨rfl, hnode, permissions, rfl⟩
    · exact hsame h.2
  | writeKey descriptor key =>
    cases descriptor with
    | directory path => exact hsame h.2
    | file path =>
      simp only [Answers] at h
      split at h
      · rename_i permissions content hnode
        obtain ⟨-, rfl⟩ := h
        exact confined_put ⟨rfl, permissions, content, key, hnode, rfl⟩
      · exact hsame h.2
  | openAudit path keyPath =>
    simp only [Answers] at h
    split at h
    · exact hsame h.2
    · exact confined_uses h fun _ _ hrewritten => ⟨rfl, hrewritten⟩
  | openUserAuth path => exact confined_uses h fun _ _ hrewritten => ⟨rfl, hrewritten⟩
  | openVault path => exact confined_uses h fun _ _ hrewritten => ⟨rfl, hrewritten⟩
  | configure path operation => exact confined_uses h fun _ _ hrewritten => ⟨rfl, hrewritten⟩
  | createUser path user password =>
    obtain ⟨salt, h⟩ := h
    exact confined_uses h fun _ _ hrewritten => ⟨rfl, hrewritten⟩
  | storeCredential path key ref plaintext =>
    obtain ⟨nonce, -, h⟩ := h
    exact confined_uses h fun _ _ hrewritten => ⟨rfl, hrewritten⟩
  | _ => exact hsame h.2

theorem serves_confined {c : RuntimeCall} {r : Reply runtimeSignature c}
    (h : Serves env files c r files') : Confined files c files' := by
  rcases h with ⟨files₁, hanswer, hsided⟩ | ⟨-, h⟩
  · exact (answers_confined hanswer).sided hsided
  · exact h

theorem serves_ok {c : RuntimeCall} {a : c.Answer} (hc : databasePath c = none)
    (h : Serves env files c (.ok a) files') : Answers env files c (.ok a) files' := by
  rcases h with ⟨files₁, hanswer, hsided⟩ | ⟨⟨e, he⟩, -⟩
  · rw [hsided.eq hc]
    exact hanswer
  · cases he

end Server

section Purpose

/-- Empty, or readable by its owner only. -/
def Private (node : Node) : Prop :=
  ∃ permissions content, node = .regular permissions content ∧
    (content = .bytes [] ∨ permissions = 0o600)

/-- What the directories were they are, and new are at most the runtime directory and those
that contain it. -/
def DirectoryKept (runtimeDir directory : PyStr) (before after : Node) : Prop :=
  after = before ∨ before = .absent ∧ directory ∈ runtimeDir :: parents runtimeDir ∧
    ∃ permissions, after = .directory permissions

/-- The path is that of a side file of one of the four databases. -/
def BesideDatabase (runtimeDir : PyStr) (files : FileSystem) (path : RuntimePath) : Prop :=
  ∃ role : Role, files.Side (role.path runtimeDir) path

/-- What was there is as it was, and what is new is private and in the runtime directory. -/
structure Kept (runtimeDir : PyStr) (before files : FileSystem) : Prop where
  canonical : files.canonical = before.canonical
  node : ∀ path, files.node path = before.node path ∨
    (before.node path = .absent ∧ path.directory = runtimeDir ∧ Private (files.node path)) ∨
      BesideDatabase runtimeDir before path
  directory : ∀ directory, DirectoryKept runtimeDir directory (before.directory directory)
    (files.directory directory)

/-- No file has changed. -/
structure Early (runtimeDir : PyStr) (before files : FileSystem) : Prop where
  canonical : files.canonical = before.canonical
  node : files.node = before.node
  directory : ∀ directory, DirectoryKept runtimeDir directory (before.directory directory)
    (files.directory directory)

/-- A database could be created here, or `exists` may say so. -/
def Free (node : Node) : Prop := node = .absent ∨ node.isLink = true

/-- How a run of the tool ends. -/
structure Ends (runtimeDir : PyStr) (before : FileSystem)
    (o : Outcome runtimeSignature LabRuntimePaths) (files : FileSystem) : Prop where
  kept : Kept runtimeDir before files
  refuses : (∃ role : Role, ¬ Free (before.node (role.path runtimeDir))) →
    files.node = before.node ∧ ∃ e, o = .raise e

end Purpose

section Steps

variable {env : Environment} {runtimeDir : PyStr} {before files files' : FileSystem}
  {c : RuntimeCall}

/-- No directory changes. -/
def LeavesDirectories (c : RuntimeCall) : Prop :=
  ∀ directory node node', ¬ ChangesDirectory c directory node node'

theorem Early.kept (h : Early runtimeDir before files) : Kept runtimeDir before files :=
  ⟨h.canonical, fun path => .inl (congrFun h.node path), h.directory⟩

theorem directory_step
    (hdirectory : ∀ directory, DirectoryKept runtimeDir directory (before.directory directory)
      (files.directory directory)) (hconfined : Confined files c files')
    (hchanges : ∀ directory node, ChangesDirectory c directory (files.directory directory) node →
      DirectoryKept runtimeDir directory (before.directory directory) node) (directory : PyStr) :
    DirectoryKept runtimeDir directory (before.directory directory)
      (files'.directory directory) := by
  rcases hconfined.directory directory with hsame | hchange
  · rw [hsame]
    exact hdirectory directory
  · exact hchanges directory _ hchange

theorem Early.step (h : Early runtimeDir before files) (hconfined : Confined files c files')
    (hc : databasePath c = none) (hnode : ∀ path node node', ¬ Changes c path node node')
    (hdirectory : ∀ directory node, ChangesDirectory c directory (files.directory directory) node →
      DirectoryKept runtimeDir directory (before.directory directory) node) :
    Early runtimeDir before files' := by
  refine ⟨hconfined.canonical.trans h.canonical, ?_,
    directory_step h.directory hconfined hdirectory⟩
  funext path
  rcases hconfined.node path with hsame | hchange | ⟨database, hdatabase, -⟩
  · rw [hsame, h.node]
  · exact absurd hchange (hnode _ _ _)
  · rw [hc] at hdatabase
    cases hdatabase

/-- A database of a call is one of the four. -/
theorem Kept.step (h : Kept runtimeDir before files) (hconfined : Confined files c files')
    (hc : ∀ database, databasePath c = some database →
      ∃ role : Role, database = role.path runtimeDir)
    (hnode : ∀ path node, Changes c path (files.node path) node → node = files.node path ∨
      (before.node path = .absent ∧ path.directory = runtimeDir ∧ Private node) ∨
        BesideDatabase runtimeDir before path)
    (hdirectory : LeavesDirectories c) : Kept runtimeDir before files' := by
  refine ⟨hconfined.canonical.trans h.canonical, fun path => ?_,
    directory_step h.directory hconfined fun directory _ hchange =>
      absurd hchange (hdirectory _ _ _)⟩
  have hsame (hsame : files'.node path = files.node path) := by
    have hkept := h.node path
    rwa [← hsame] at hkept
  rcases hconfined.node path with hequal | hchange | ⟨database, hdatabase, hside⟩
  · exact hsame hequal
  · rcases hnode path _ hchange with hequal | hnew
    · exact hsame hequal
    · exact .inr hnew
  · obtain ⟨role, rfl⟩ := hc database hdatabase
    rw [FileSystem.Side, h.canonical] at hside
    exact .inr (.inr ⟨role, hside⟩)

/-- A call that changes no directory, and files only that were not there before. -/
theorem ask_kept (hc : ∀ database, databasePath c = some database →
      ∃ role : Role, database = role.path runtimeDir)
    (hnode : ∀ files, Kept runtimeDir before files → ∀ path node,
      Changes c path (files.node path) node → node = files.node path ∨
        (before.node path = .absent ∧ path.directory = runtimeDir ∧ Private node) ∨
          BesideDatabase runtimeDir before path)
    (hdirectory : LeavesDirectories c) :
    Preserves (Serves env) (Stays (Kept runtimeDir before)) (ask c) :=
  preserves_perform fun files _ _ hserve hkept =>
    hkept.step (serves_confined hserve) hc (hnode files hkept) hdirectory

/-- A call that is for no database. -/
theorem no_database (hc : databasePath c = none) (database : RuntimePath)
    (h : databasePath c = some database) : ∃ role : Role, database = role.path runtimeDir := by
  rw [hc] at h
  cases h

/-- A call that changes nothing. -/
theorem ask_idle (hc : databasePath c = none)
    (hnode : ∀ path node node', ¬ Changes c path node node') (hdirectory : LeavesDirectories c) :
    Preserves (Serves env) (Stays (Kept runtimeDir before)) (ask c) :=
  ask_kept (no_database hc) (fun _ _ _ _ hchange => absurd hchange (hnode _ _ _)) hdirectory

/-- A call of an adapter on a database that was not there. -/
theorem ask_adapter (role : Role) (hfree : Free (before.node (role.path runtimeDir)))
    (hdatabase : databasePath c = some (role.path runtimeDir))
    (hc : ∀ other node node', Changes c other node node' →
      other = role.path runtimeDir ∧ Rewritten node node')
    (hdirectory : LeavesDirectories c) :
    Preserves (Serves env) (Stays (Kept runtimeDir before)) (ask c) := by
  refine ask_kept (fun database h => ?_) (fun files hkept other node hchange => ?_) hdirectory
  · rw [hdatabase] at h
    cases h
    exact ⟨role, rfl⟩
  obtain ⟨rfl, hrewritten⟩ := hc _ _ _ hchange
  have hprivate : Private node := by
    obtain ⟨content, rfl⟩ := hrewritten.owner_only
    exact ⟨_, _, rfl, .inr rfl⟩
  rcases hkept.node (role.path runtimeDir) with hsame | ⟨habsent, -⟩ | hside
  · refine .inr (.inl ⟨?_, rfl, hprivate⟩)
    rcases hfree with habsent | hlink
    · exact habsent
    · -- an adapter does not follow a link
      rw [hsame] at hrewritten
      cases hnode : before.node (role.path runtimeDir) with
      | link target =>
        rw [hnode] at hrewritten
        cases hrewritten
      | _ => simp [hnode, Node.isLink] at hlink
  · exact .inr (.inl ⟨habsent, rfl, hprivate⟩)
  · exact .inr (.inr hside)

end Steps

section Directory

variable {env : Environment} {runtimeDir : PyStr} {before files : FileSystem}

theorem closeQuietly_stays (descriptor : Descriptor) :
    Preserves (Serves env) (Stays (Early runtimeDir before)) (closeQuietly descriptor) := by
  refine Preserves.tryExcept ?_ fun e => ?_
  · exact preserves_perform fun files r files' hserve hearly =>
      hearly.step (serves_confined hserve) rfl (fun _ _ _ hchange => hchange)
        fun _ _ hchange => hchange.elim
  · split_ifs
    · exact preserves_pure ()
    · exact preserves_raise (S := runtimeSignature) e

/-- A call that changes nothing, before anything has changed. -/
theorem idle_step {c : RuntimeCall} {r : Reply runtimeSignature c} {files' : FileSystem}
    (h : Early runtimeDir before files) (hserve : Serves env files c r files')
    (hc : databasePath c = none) (hnode : ∀ path node node', ¬ Changes c path node node')
    (hdirectory : LeavesDirectories c) :
    Early runtimeDir before files' ∧ files'.directory = files.directory := by
  have hconfined := serves_confined hserve
  refine ⟨h.step hconfined hc hnode fun _ _ hchange => absurd hchange (hdirectory _ _ _), ?_⟩
  funext directory
  exact (hconfined.directory directory).resolve_right (hdirectory _ _ _)

/-- Such a call, and what its answer says. -/
theorem ask_early (env : Environment) {c : RuntimeCall} (R : c.Answer → Prop)
    (h : Early runtimeDir before files) (hc : databasePath c = none)
    (hnode : ∀ path node node', ¬ Changes c path node node') (hdirectory : LeavesDirectories c)
    (hanswer : ∀ v files', Serves env files c (.ok v) files' → R v) :
    EnsuresOn (Serves env) (ask c) files fun o files' => (Early runtimeDir before files' ∧
      files'.directory = files.directory) ∧ ∀ v, o = .ret v → R v := by
  refine ensuresOn_perform (fun v files' hserve => ?_) fun e files' hserve => ?_
  · refine ⟨idle_step h hserve hc hnode hdirectory, fun v' hret => ?_⟩
    cases hret
    exact hanswer _ _ hserve
  · exact ⟨idle_step h hserve hc hnode hdirectory, fun v hret => by cases hret⟩

/-- The rest of `inspectDirectory`, where a directory that is not there may be created. -/
theorem openDirectory_early (existed : Bool) (h : Early runtimeDir before files)
    (habsent : existed = false → before.directory runtimeDir = .absent) :
    EnsuresOn (Serves env) (do
      let descriptor ← ask (.openDirectory runtimeDir)
      Prog.tryFinally (do
        if existed then ask (.fstat descriptor)
        else
          ask (.fchmod descriptor 0o700)
          ask (.fstat descriptor)) (closeQuietly descriptor)) files
      fun _ files' => Early runtimeDir before files' := by
  have hopen := ask_early env (c := .openDirectory runtimeDir)
    (fun descriptor => descriptor = .directory runtimeDir) h rfl (by simp [Changes])
    (by simp [LeavesDirectories, ChangesDirectory]) fun descriptor files' hserve => by
      have hanswer := serves_ok rfl hserve
      simp only [Answers] at hanswer
      split at hanswer
      · exact Except.ok.inj hanswer.1
      · obtain ⟨⟨e, he, -⟩, -⟩ := hanswer
        cases he
  refine hopen.bind ?_ fun e files' hearly => hearly.1.1
  intro descriptor files' hopened
  obtain ⟨⟨hearly, -⟩, hdescriptor⟩ := hopened
  obtain rfl := hdescriptor descriptor rfl
  refine Preserves.ensures (I := Early runtimeDir before) ?_ hearly
  have hfstat : Preserves (Serves env) (Stays (Early runtimeDir before))
      (ask (.fstat (.directory runtimeDir))) :=
    preserves_perform fun files r files' hserve hearly =>
      (idle_step hearly hserve rfl (by simp [Changes])
      (by simp [LeavesDirectories, ChangesDirectory])).1
  refine Preserves.tryFinally ?_ (closeQuietly_stays _)
  cases existed with
  | true => exact hfstat
  | false =>
    refine Preserves.bind (preserves_perform fun files r files' hserve hearly => ?_)
      fun _ => hfstat
    refine hearly.step (serves_confined hserve) rfl (by simp [Changes])
      fun directory node hchange => ?_
    obtain ⟨rfl, rfl⟩ := hchange
    rcases hearly.directory directory with hsame | ⟨hnone, hmem, permissions, hnode⟩
    · rw [hsame, habsent rfl]
      exact .inl rfl
    · rw [hnode]
      exact .inr ⟨hnone, hmem, 0o700, rfl⟩

/-- The directory is created and its mode is set only where there was nothing. -/
theorem inspectDirectory_early (env : Environment) (runtimeDir : PyStr) (before : FileSystem) :
    EnsuresOn (Serves env) (inspectDirectory runtimeDir) before
      fun _ files => Early runtimeDir before files := by
  have hrefl : Early runtimeDir before before := ⟨rfl, rfl, fun _ => .inl rfl⟩
  refine EnsuresOn.tryExcept (P := fun _ files => Early runtimeDir before files) ?_
    (fun _ _ hearly => hearly) fun e files hearly =>
      ensuresOn_raise (S := runtimeSignature) _ hearly
  have hlook := ask_early env (c := .isSymlink runtimeDir)
    (fun link => link = (before.directory runtimeDir).isLink) hrefl rfl (by simp [Changes])
    (by simp [LeavesDirectories, ChangesDirectory]) fun link files hserve =>
      Except.ok.inj (serves_ok rfl hserve).1
  refine hlook.bind ?_ fun e files hlooked => hlooked.1.1
  intro link files hlooked
  obtain ⟨⟨hearly, hsame⟩, hlink⟩ := hlooked
  obtain rfl := hlink link rfl
  split_ifs with hnotlink
  · exact ensuresOn_raise (S := runtimeSignature) _ hearly
  have hexist := ask_early env (c := .directoryExists runtimeDir)
    (fun existed => existed = false → before.directory runtimeDir = .absent) hearly rfl
    (by simp [Changes]) (by simp [LeavesDirectories, ChangesDirectory])
    fun existed files' hserve hnone => by
      obtain ⟨⟨found, hfound, hexists⟩, -⟩ := serves_ok rfl hserve
      cases hfound
      rw [hsame, hnone] at hexists
      cases hnode : before.directory runtimeDir with
      | absent => rfl
      | link target => simp [hnode, Node.isLink] at hnotlink
      | _ => simp [hnode, Node.Exists] at hexists
  refine hexist.bind ?_ fun e files hlooked => hlooked.1.1
  intro existed files' hlooked
  obtain ⟨⟨hearly', hunchanged⟩, habsent⟩ := hlooked
  have hsame' := hunchanged.trans hsame
  refine EnsuresOn.bind (P := fun _ files => Early runtimeDir before files) ?_
    (fun _ files'' hearly'' => openDirectory_early existed hearly'' (habsent existed rfl))
    fun e files'' hearly'' => hearly''
  have hmkdir {r : Except PyExn Unit} {files'' : FileSystem}
      (hserve : Serves env files' (.mkdir runtimeDir 0o700) r files'') :
      Early runtimeDir before files'' := by
    refine hearly'.step (serves_confined (c := .mkdir _ _) hserve) rfl (by simp [Changes]) ?_
    intro directory node hchange
    obtain ⟨hmem, hnode, hcreated⟩ := hchange
    rw [hsame'] at hnode
    exact .inr ⟨hnode, hmem, hcreated⟩
  exact ensuresOn_perform (fun _ _ hserve => hmkdir hserve) fun _ _ hserve => hmkdir hserve

theorem ensurePrivateRuntimeDirectory_early (env : Environment) (runtimeDir : PyStr)
    (before : FileSystem) :
    EnsuresOn (Serves env) (ensurePrivateRuntimeDirectory runtimeDir) before
      fun _ files => Early runtimeDir before files := by
  refine (inspectDirectory_early env runtimeDir before).bind (fun stMode files hearly => ?_)
    fun e files hearly => hearly
  split_ifs
  · exact ensuresOn_raise (S := runtimeSignature) _ hearly
  · exact ensuresOn_raise (S := runtimeSignature) _ hearly
  · exact ensuresOn_ret () hearly

theorem free_of_not_exists {node : Node} (h : node.Exists false) : Free node := by
  cases node with
  | absent => exact .inl rfl
  | link target => exact .inr rfl
  | _ => cases h

/-- Where this returns, there is no database. -/
theorem rejectExistingDatabases_early (paths : List RuntimePath)
    (h : Early runtimeDir before files) :
    EnsuresOn (Serves env) (rejectExistingDatabases paths) files fun o files' =>
      Early runtimeDir before files' ∧ (o = .ret () → ∀ path ∈ paths, Free (before.node path)) := by
  induction paths generalizing files with
  | nil => exact ensuresOn_ret () ⟨h, fun _ => by simp⟩
  | cons path paths ih =>
    refine EnsuresOn.bind (P := fun o files' => Early runtimeDir before files' ∧
      ∀ found, o = .ret found → (before.node path).Exists found) ?_ ?_ ?_
    · refine ensuresOn_perform (fun found files' hserve => ?_) fun e files' hserve => ?_
      · refine ⟨(idle_step h hserve rfl (by simp [Changes])
        (by simp [LeavesDirectories, ChangesDirectory])).1, ?_⟩
        intro found' hret
        cases hret
        obtain ⟨⟨_, hfound, hexists⟩, -⟩ := serves_ok rfl hserve
        cases hfound
        rwa [h.node] at hexists
      · exact ⟨(idle_step h hserve rfl (by simp [Changes])
        (by simp [LeavesDirectories, ChangesDirectory])).1,
          fun found hret => by cases hret⟩
    · intro found files' hlooked
      obtain ⟨hearly, hexists⟩ := hlooked
      cases found with
      | true => exact ensuresOn_raise (S := runtimeSignature) _ ⟨hearly, fun hret => by cases hret⟩
      | false =>
        refine (ih hearly).mono fun o files'' hrest => ⟨hrest.1, fun hret => ?_⟩
        rw [List.forall_mem_cons]
        exact ⟨free_of_not_exists (hexists false rfl), hrest.2 hret⟩
    · intro e files' hlooked
      exact ⟨hlooked.1, fun hret => by cases hret⟩

end Directory

section Keys

variable {env : Environment} {runtimeDir : PyStr} {before files : FileSystem} {path : RuntimePath}

/-- Of the keys no name ends as that of a side file. -/
theorem keys_not_beside (runtimeDir : PyStr) (before : FileSystem) :
    ¬ BesideDatabase runtimeDir before (vaultKeyPath runtimeDir) ∧
      ¬ BesideDatabase runtimeDir before (auditKeyPath runtimeDir) := by
  have hnames (role : Role) (suffix : PyStr) (hsuffix : suffix ∈ sideSuffixes) :
      py "vault.key" ≠ role.fileName ++ suffix ∧ py "audit.key" ≠ role.fileName ++ suffix := by
    simp only [sideSuffixes, List.mem_cons, List.not_mem_nil, or_false] at hsuffix
    rcases hsuffix with rfl | rfl | rfl <;> cases role <;> decide
  constructor
  · rintro ⟨role, -, suffix, hsuffix, hname⟩
    exact (hnames role suffix hsuffix).1 hname
  · rintro ⟨role, -, suffix, hsuffix, hname⟩
    exact (hnames role suffix hsuffix).2 hname

/-- A descriptor is returned for a file that was not there. -/
theorem createKeyFile_kept (purpose : String) (hpath : path.directory = runtimeDir)
    (hbeside : ¬ BesideDatabase runtimeDir before path) (h : Kept runtimeDir before files) :
    EnsuresOn (Serves env) (createKeyFile path purpose) files fun o files' =>
      Kept runtimeDir before files' ∧ ∀ descriptor, o = .ret (some descriptor) →
        descriptor = .file path ∧ before.node path = .absent := by
  have habsent {files : FileSystem} (hkept : Kept runtimeDir before files)
      (hnode : files.node path = .absent) : before.node path = .absent := by
    rcases hkept.node path with hsame | ⟨habsent, -⟩ | hside
    · rw [← hsame, hnode]
    · exact habsent
    · exact absurd hside hbeside
  have hcreate : Preserves (Serves env) (Stays (Kept runtimeDir before))
      (ask (.createKey path)) := by
    refine ask_kept (no_database rfl) (fun files hkept other node hchange => ?_)
      fun _ _ _ hchange => hchange
    obtain ⟨rfl, hnode, permissions, rfl⟩ := hchange
    exact .inr (.inl ⟨habsent hkept hnode, hpath, permissions, _, rfl, .inl rfl⟩)
  refine EnsuresOn.tryExcept (P := fun o files' => Kept runtimeDir before files' ∧
    ∀ descriptor, o = .ret (some descriptor) →
      descriptor = .file path ∧ before.node path = .absent) ?_ (fun _ _ hended => hended) ?_
  · refine EnsuresOn.bind (P := fun o files' => Kept runtimeDir before files' ∧
      ∀ descriptor, o = .ret descriptor → descriptor = .file path ∧ before.node path = .absent)
      ?_ ?_ ?_
    · intro o files' hrun
      refine ⟨hcreate.ensures h o files' hrun, fun descriptor hret => ?_⟩
      subst hret
      obtain ⟨r, files₁, hserve, hrest⟩ := hrun
      cases r with
      | error e => cases hrest.1
      | ok descriptor' =>
        obtain ⟨hret, rfl⟩ := hrest
        cases hret
        have hanswer := serves_ok rfl hserve
        simp only [Answers] at hanswer
        split at hanswer
        · rename_i hnode
          exact ⟨Except.ok.inj hanswer.1, habsent h hnode⟩
        · cases hanswer.1
    · intro descriptor files' hcreated
      refine ensuresOn_ret _ ⟨hcreated.1, fun descriptor' hret => ?_⟩
      cases hret
      exact hcreated.2 descriptor rfl
    · exact fun e files' hcreated => ⟨hcreated.1, fun descriptor hret => by cases hret⟩
  · intro e files' hcreated
    split_ifs
    · exact ensuresOn_ret none ⟨hcreated.1, fun descriptor hret => by cases hret⟩
    · exact ensuresOn_raise (S := runtimeSignature) _
        ⟨hcreated.1, fun descriptor hret => by cases hret⟩
    · exact ensuresOn_raise (S := runtimeSignature) _
        ⟨hcreated.1, fun descriptor hret => by cases hret⟩

/-- A file at this path is private. -/
def Tight (path : RuntimePath) (files : FileSystem) : Prop :=
  ∀ permissions content, files.node path = .regular permissions content → permissions = 0o600

theorem fchmodKey_kept (hpath : path.directory = runtimeDir)
    (habsent : before.node path = .absent) :
    Preserves (Serves env) (Stays (Kept runtimeDir before))
      (ask (.fchmod (.file path) 0o600)) := by
  refine ask_kept (no_database rfl) (fun files hkept other node hchange => ?_)
    fun _ _ _ hchange => hchange
  obtain ⟨rfl, rfl⟩ := hchange
  cases hnode : files.node other with
  | regular permissions content => exact .inr (.inl ⟨habsent, hpath, _, _, rfl, .inr rfl⟩)
  | directory permissions =>
    rcases hkept.node other with hsame | ⟨-, -, _, _, hprivate, -⟩ | hside
    · rw [hnode, habsent] at hsame
      cases hsame
    · rw [hnode] at hprivate
      cases hprivate
    · exact .inr (.inr hside)
  | _ => exact .inl rfl

theorem fchmodKey_tight (hpath : path.directory = runtimeDir)
    (habsent : before.node path = .absent) (h : Kept runtimeDir before files) :
    EnsuresOn (Serves env) (ask (.fchmod (.file path) 0o600)) files
      fun o files' => Kept runtimeDir before files' ∧ (o = .ret () → Tight path files') := by
  intro o files' hrun
  refine ⟨(fchmodKey_kept hpath habsent).ensures h o files' hrun,
    fun hret permissions content hnode => ?_⟩
  subst hret
  obtain ⟨r, files₁, hserve, hrest⟩ := hrun
  cases r with
  | error e => cases hrest.1
  | ok u =>
    obtain ⟨-, rfl⟩ := hrest
    obtain ⟨-, rfl⟩ := serves_ok rfl hserve
    rw [FileSystem.node_put_self] at hnode
    cases hbefore : files.node path with
    | regular permissions' content' =>
      rw [hbefore] at hnode
      cases hnode
      rfl
    | _ =>
      rw [hbefore] at hnode
      cases hnode

theorem writeKey_kept (key : Bytes) (hpath : path.directory = runtimeDir)
    (habsent : before.node path = .absent) (h : Kept runtimeDir before files)
    (htight : Tight path files) :
    EnsuresOn (Serves env) (ask (.writeKey (.file path) key)) files
      fun _ files' => Kept runtimeDir before files' := by
  have hwrite {r : Except PyExn Unit} {files' : FileSystem}
      (hserve : Serves env files (.writeKey (.file path) key) r files') :
      Kept runtimeDir before files' := by
    refine h.step (serves_confined (c := .writeKey _ _) hserve) (no_database rfl) ?_
      fun _ _ _ hchange => hchange
    intro other node hchange
    obtain ⟨rfl, permissions, content, data, hnode, rfl⟩ := hchange
    exact .inr (.inl ⟨habsent, hpath, _, _, rfl, .inr (htight _ _ hnode)⟩)
  exact ensuresOn_perform (fun _ _ hserve => hwrite hserve) fun _ _ hserve => hwrite hserve

/-- The new file is made private before the key is written to it. -/
theorem fillKeyFile_kept (key : Bytes) (purpose : String) (hpath : path.directory = runtimeDir)
    (habsent : before.node path = .absent) (h : Kept runtimeDir before files) :
    EnsuresOn (Serves env) (fillKeyFile (.file path) key purpose) files
      fun _ files' => Kept runtimeDir before files' := by
  have hclose : Preserves (Serves env) (Stays (Kept runtimeDir before))
      (ask (.close (.file path))) :=
    ask_idle rfl (fun _ _ _ hchange => hchange) fun _ _ _ hchange => hchange
  refine EnsuresOn.bind (P := fun o files' =>
    Kept runtimeDir before files' ∧ (o = .ret () → Tight path files')) ?_ ?_
    fun e files' hended => hended.1
  · refine (fchmodKey_tight hpath habsent h).tryExcept (fun _ _ hended => hended)
      fun e files' hended => ?_
    split_ifs
    · refine (hclose.ensures hended.1).bind (fun _ files'' hkept => ?_) fun e files'' hkept =>
        ⟨hkept, fun hret => by cases hret⟩
      exact ensuresOn_raise (S := runtimeSignature) _ ⟨hkept, fun hret => by cases hret⟩
    · exact ensuresOn_raise (S := runtimeSignature) _ ⟨hended.1, fun hret => by cases hret⟩
  · intro _ files' hended
    obtain ⟨hkept, htight⟩ := hended
    exact (writeKey_kept key hpath habsent hkept (htight rfl)).tryExcept (fun _ _ hkept => hkept)
      fun e files'' hkept => ensuresOn_raise (S := runtimeSignature) _ hkept

theorem ensureKeyFile_kept (purpose : String) (hpath : path.directory = runtimeDir)
    (hbeside : ¬ BesideDatabase runtimeDir before path) :
    Preserves (Serves env) (Stays (Kept runtimeDir before)) (ensureKeyFile path purpose) := by
  intro files
  have hensures (h : Kept runtimeDir before files) :
      EnsuresOn (Serves env) (ensureKeyFile path purpose) files
        fun _ files' => Kept runtimeDir before files' := by
    refine (createKeyFile_kept purpose hpath hbeside h).bind (fun descriptor files₁ hcreated => ?_)
      fun e files₁ hcreated => hcreated.1
    cases descriptor with
    | none => exact ensuresOn_ret () hcreated.1
    | some descriptor =>
      obtain ⟨rfl, habsent⟩ := hcreated.2 descriptor rfl
      have htoken : Preserves (Serves env) (Stays (Kept runtimeDir before))
          (ask (.tokenBytes KeyFiles.FileKeyProvider.keySize)) :=
        ask_idle rfl (fun _ _ _ hchange => hchange) fun _ _ _ hchange => hchange
      refine (htoken.ensures hcreated.1).bind (fun key files₂ hkept => ?_)
        fun e files₂ hkept => hkept
      exact fillKeyFile_kept key purpose hpath habsent hkept
  exact fun o files' hrun h => hensures h o files' hrun

theorem loadOrCreateKey_kept (purpose : String) (hpath : path.directory = runtimeDir)
    (hbeside : ¬ BesideDatabase runtimeDir before path) :
    Preserves (Serves env) (Stays (Kept runtimeDir before)) (loadOrCreateKey path purpose) := by
  refine (ensureKeyFile_kept purpose hpath hbeside).bind fun _ => ?_
  refine Preserves.tryExcept ?_ fun e => preserves_raise (S := runtimeSignature) _
  exact ask_idle rfl (fun _ _ _ hchange => hchange) fun _ _ _ hchange => hchange

end Keys

section Databases

variable {env : Environment} {runtimeDir : PyStr} {before files : FileSystem}

theorem guarded_kept {p : Setup Unit} (message : String)
    (hp : Preserves (Serves env) (Stays (Kept runtimeDir before)) p) :
    Preserves (Serves env) (Stays (Kept runtimeDir before)) (guarded p message) :=
  hp.tryExcept fun _ => preserves_raise (S := runtimeSignature) _

theorem readPassword_kept (prompt : String) :
    Preserves (Serves env) (Stays (Kept runtimeDir before)) (readPassword prompt) := by
  refine Preserves.bind ?_ fun password => ?_
  · refine Preserves.tryExcept ?_ fun e => preserves_raise (S := runtimeSignature) _
    exact ask_idle rfl (fun _ _ _ hchange => hchange) fun _ _ _ hchange => hchange
  · split
    · exact preserves_pure _
    · exact preserves_raise (S := runtimeSignature) _

theorem configure_kept (operation : ConfigurationDatabase.Operation)
    (hfree : ∀ role : Role, Free (before.node (role.path runtimeDir))) :
    Preserves (Serves env) (Stays (Kept runtimeDir before))
      (ask (.configure (LabRuntimePaths.within runtimeDir).configDb operation)) :=
  ask_adapter .config (hfree .config) rfl (fun _ _ _ hchange => hchange)
    fun _ _ _ hchange => hchange

theorem openLabDatabases_kept (hfree : ∀ role : Role, Free (before.node (role.path runtimeDir))) :
    Preserves (Serves env) (Stays (Kept runtimeDir before))
      (openLabDatabases (.within runtimeDir)) := by
  have humask (mode : ℕ) : Preserves (Serves env) (Stays (Kept runtimeDir before))
      (ask (.umask mode)) :=
    ask_idle rfl (fun _ _ _ hchange => hchange) fun _ _ _ hchange => hchange
  refine guarded_kept _ ((humask _).bind fun previous => ?_)
  refine Preserves.tryFinally ?_ ((humask previous).bind fun _ => preserves_pure ())
  refine (ask_adapter (c := .openUserAuth _) .auth (hfree .auth) rfl (fun _ _ _ hchange => hchange)
    fun _ _ _ hchange => hchange).bind fun _ => ?_
  refine (configure_kept _ hfree).bind fun _ => (configure_kept _ hfree).bind fun _ => ?_
  refine (configure_kept _ hfree).bind fun _ => ?_
  exact ask_adapter .vault (hfree .vault) rfl (fun _ _ _ hchange => hchange)
    fun _ _ _ hchange => hchange

theorem storeConfiguration_kept (records : LabRecords)
    (hfree : ∀ role : Role, Free (before.node (role.path runtimeDir))) :
    Preserves (Serves env) (Stays (Kept runtimeDir before))
      (storeConfiguration (.within runtimeDir) records) :=
  guarded_kept _ ((configure_kept _ hfree).bind fun _ => (configure_kept _ hfree).bind fun _ =>
    configure_kept _ hfree)

theorem newCipher_kept (key : Bytes) :
    Preserves (Serves env) (Stays (Kept runtimeDir before)) (lift (newCipher key)) :=
  preserves_ofReply (S := runtimeSignature) (newCipher key)

theorem createUser_kept (user : User) (password : PyStr)
    (hfree : ∀ role : Role, Free (before.node (role.path runtimeDir))) :
    Preserves (Serves env) (Stays (Kept runtimeDir before))
      (ask (RuntimeCall.createUser (LabRuntimePaths.within runtimeDir).authDb user password)) :=
  ask_adapter (c := .createUser _ _ _) .auth (hfree .auth) rfl (fun _ _ _ hchange => hchange)
    fun _ _ _ hchange => hchange

theorem storeCredential_kept (key : Bytes) (ref : CredentialRef) (plaintext : Bytes)
    (hfree : ∀ role : Role, Free (before.node (role.path runtimeDir))) :
    Preserves (Serves env) (Stays (Kept runtimeDir before))
      (ask (.storeCredential (LabRuntimePaths.within runtimeDir).vaultDb key ref plaintext)) :=
  ask_adapter (c := .storeCredential _ _ _ _) .vault (hfree .vault) rfl
    (fun _ _ _ hchange => hchange) fun _ _ _ hchange => hchange

/-- The tool from the keys on. -/
theorem secrets_kept (config : LabProvisioningConfig) (records : LabRecords)
    (hfree : ∀ role : Role, Free (before.node (role.path config.runtimeDir))) :
    Preserves (Serves env) (Stays (Kept config.runtimeDir before)) (do
      let paths := LabRuntimePaths.within config.runtimeDir
      let vaultKey ← loadOrCreateKey paths.vaultKey "vault"
      let auditKey ← loadOrCreateKey paths.auditKey "audit integrity"
      if vaultKey = auditKey then
        throw (labError "vault and audit integrity keys must be distinct")
      else
        guarded (lift (newCipher vaultKey)) "vault cipher could not be initialized"
        let pamPassword ← readPassword "PAM application user password: "
        let targetPassword ← readPassword "Target pamadmin SSH password: "
        openLabDatabases paths
        guarded (ask (.createUser paths.authDb records.user pamPassword))
          "PAM user could not be provisioned"
        storeConfiguration paths records
        match encodeUtf8 targetPassword with
        | none => throw (labError "target password could not be encoded")
        | some targetSecret =>
          guarded (ask (.storeCredential paths.vaultDb vaultKey records.account.credentialRef
            targetSecret)) "target credential could not be encrypted and stored"
          return paths) := by
  have hvault : (LabRuntimePaths.within config.runtimeDir).vaultKey.directory =
    config.runtimeDir := rfl
  have haudit : (LabRuntimePaths.within config.runtimeDir).auditKey.directory =
    config.runtimeDir := rfl
  obtain ⟨hvaultKey, hauditKey⟩ := keys_not_beside config.runtimeDir before
  refine (loadOrCreateKey_kept "vault" hvault hvaultKey).bind fun vaultKey => ?_
  refine (loadOrCreateKey_kept "audit integrity" haudit hauditKey).bind fun auditKey => ?_
  split_ifs
  · exact preserves_raise (S := runtimeSignature) _
  refine (guarded_kept _ (newCipher_kept vaultKey)).bind fun _ => ?_
  refine (readPassword_kept _).bind fun pamPassword => ?_
  refine (readPassword_kept _).bind fun targetPassword => ?_
  refine (openLabDatabases_kept hfree).bind fun _ => ?_
  refine (guarded_kept _ (createUser_kept _ _ hfree)).bind fun _ => ?_
  refine (storeConfiguration_kept records hfree).bind fun _ => ?_
  cases encodeUtf8 targetPassword with
  | none => exact preserves_raise (S := runtimeSignature) _
  | some targetSecret =>
    refine (guarded_kept _ (storeCredential_kept _ _ _ hfree)).bind fun _ => ?_
    exact preserves_pure _

/-- The tool up to its keys: it raises before anything has changed, or there is no database. -/
theorem checked_ensures {α : Type} (config : LabProvisioningConfig)
    {Q : Outcome runtimeSignature α → FileSystem → Prop} {rest : LabRecords → Setup α}
    (hraise : ∀ e files, Early config.runtimeDir before files → Q (.raise e) files)
    (hrest : ∀ records files, Early config.runtimeDir before files →
      (∀ role : Role, Free (before.node (role.path config.runtimeDir))) →
      EnsuresOn (Serves env) (rest records) files Q) :
    EnsuresOn (Serves env) (do
      let records ← lift (buildRecords config)
      ensurePrivateRuntimeDirectory config.runtimeDir
      rejectExistingDatabases (LabRuntimePaths.within config.runtimeDir).databases
      rest records) before Q := by
  have hrefl : Early config.runtimeDir before before := ⟨rfl, rfl, fun _ => .inl rfl⟩
  refine EnsuresOn.bind (P := fun _ files => files = before) ?_ ?_ ?_
  · exact ensuresOn_ofReply (S := runtimeSignature) (fun _ _ => rfl) fun _ _ => rfl
  · intro records files hsame
    rw [hsame]
    refine (ensurePrivateRuntimeDirectory_early env config.runtimeDir before).bind
      (fun _ files₁ hearly => ?_) hraise
    refine (rejectExistingDatabases_early _ hearly).bind (fun _ files₂ hended => ?_)
      fun e files₂ hended => hraise e files₂ hended.1
    apply hrest records files₂ hended.1
    intro role
    apply hended.2 rfl
    cases role <;>
      simp [LabRuntimePaths.databases, LabRuntimePaths.within, Role.path, Role.fileName]
  · intro e files hsame
    rw [hsame]
    exact hraise e before hrefl

/-- Where something stands at the path of a database, the tool changes no file. -/
theorem provisionLab_refused (env : Environment) (config : LabProvisioningConfig)
    {before : FileSystem} {role : Role}
    (hrole : ¬ Free (before.node (role.path config.runtimeDir))) :
    EnsuresOn (Serves env) (provisionLab config) before
      fun o files => files.node = before.node ∧ ∃ e, o = .raise e := by
  refine checked_ensures config (fun e files hearly => ?_) fun records files _ hfree => ?_
  · exact ⟨hearly.node, e, rfl⟩
  · exact absurd (hfree role) hrole

theorem provisionLab_kept (env : Environment) (config : LabProvisioningConfig)
    (before : FileSystem) :
    EnsuresOn (Serves env) (provisionLab config) before
      fun _ files => Kept config.runtimeDir before files := by
  refine checked_ensures config (fun e files hearly => ?_) fun records files hearly hfree => ?_
  · exact hearly.kept
  · exact (secrets_kept config records hfree).ensures hearly.kept

/-- However the tool ends, and whatever fails in it. -/
theorem provisionLab_overwrites_nothing (env : Environment) (config : LabProvisioningConfig)
    (before : FileSystem) :
    EnsuresOn (Serves env) (provisionLab config) before (Ends config.runtimeDir before) := by
  intro o files hrun
  refine ⟨provisionLab_kept env config before o files hrun, fun hexists => ?_⟩
  obtain ⟨role, hrole⟩ := hexists
  exact provisionLab_refused env config hrole o files hrun

end Databases

end PamMvp.ProvisioningSafety
