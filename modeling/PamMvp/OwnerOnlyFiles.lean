import PamMvp.KeyFiles
import PamMvp.PoolComposition
import PamMvp.RuntimeFiles

/-!
# Owner-only database files

`ensure_owner_only_database_file` creates a missing database or tightens an existing one.
Any number of processes may do so at once: no link is followed, no content is lost, each
descriptor is closed, and a file is owner-only from the moment one of them returns.
-/
namespace PamMvp.OwnerOnlyFiles
open InteractionPrograms SharedPrograms PoolComposition PythonText DomainModel
open RuntimeConfiguration (RuntimePath)
open RuntimeFiles (Node Content IsOsError)
open KeyFiles (isRegular permissions)

variable {W : Type}

section Program

/-- A descriptor stands for the file it was opened on. -/
inductive GuardCall where
  | create (path : RuntimePath)
  | openExisting (path : RuntimePath)
  | fstat (descriptor : RuntimePath)
  | fchmod (descriptor : RuntimePath) (mode : ℕ)
  | close (descriptor : RuntimePath)

abbrev GuardCall.Answer : GuardCall → Type
  | .create _ => RuntimePath
  | .openExisting _ => RuntimePath
  | .fstat _ => ℕ
  | _ => Unit

abbrev guardSignature : Signature := ⟨GuardCall, GuardCall.Answer, PyExn⟩

abbrev Guard (α : Type) : Type := Prog guardSignature Unit α

def ask (c : GuardCall) : Guard c.Answer := Prog.perform (S := guardSignature) c

def throw {α : Type} (e : PyExn) : Guard α := Prog.raise (S := guardSignature) e

def databaseFileMode : ℕ := 0o600

def permissionError (message : String) : PyExn := raised .databasePermissionError (py message)

/-- `OSError`, `TypeError`, `ValueError` and their subclasses. -/
def caught : List ExnClass :=
  [.osError, .fileExistsError, .typeError, .valueError, .unicodeEncodeError, .unicodeDecodeError]

/-- The `except` clauses. -/
def translate (e : PyExn) : PyExn :=
  if e.cls ∈ caught then permissionError "database file permissions could not be secured" else e

def IsOsClass (e : PyExn) : Prop := e.cls = .osError ∨ e.cls = .fileExistsError

instance (e : PyExn) : Decidable (IsOsClass e) := inferInstanceAs (Decidable (_ ∨ _))

/-- The descriptor of a new file, or of the file that exists already. -/
def openDatabase (databasePath : RuntimePath) : Guard RuntimePath :=
  (ask (.create databasePath)).tryExcept fun e =>
    if e.cls = .fileExistsError then ask (.openExisting databasePath) else throw e

/-- The `try` body after the file is open. -/
def secure (descriptor : RuntimePath) : Guard Unit := do
  let stMode ← ask (.fstat descriptor)
  if isRegular stMode then
    ask (.fchmod descriptor databaseFileMode)
    let securedMode ← ask (.fstat descriptor)
    if permissions securedMode ≠ databaseFileMode then
      throw (permissionError "database file permissions could not be secured")
    else return ()
  else throw (permissionError "database path must identify a regular file")

/-- The `finally` clause; an error of `os.close` is dropped. -/
def closeQuietly (descriptor : RuntimePath) : Guard Unit :=
  (ask (.close descriptor)).tryExcept fun e =>
    if IsOsClass e then return () else throw e

/-- `ensure_owner_only_database_file`. Nothing is closed when no file could be opened. -/
def ensureOwnerOnlyDatabaseFile (databasePath : RuntimePath) : Guard Unit := do
  let descriptor ← (openDatabase databasePath).tryExcept fun e => throw (translate e)
  ((secure descriptor).tryExcept fun e => throw (translate e)).tryFinally (closeQuietly descriptor)

end Program

section Disk

/-- Permissions have twelve bits. -/
def Valid : Node → Prop
  | .regular permissions _ => permissions < 0o10000
  | .directory permissions => permissions < 0o10000
  | _ => True

/-- The files, and the descriptors that each process has open. -/
structure Disk (W : Type) where
  node : RuntimePath → Node
  opened : W → List RuntimePath
  valid : ∀ path, Valid (node path)

def Disk.idle (disk : Disk W) : Disk W := { disk with opened := fun _ => [] }

variable [DecidableEq W]

/-- A process that ends loses its descriptors. -/
def Disk.crash (w : W) (disk : Disk W) : Disk W :=
  { disk with opened := Function.update disk.opened w [] }

/-- The permission of the owner to read, `S_IRUSR`. -/
def ownerRead : ℕ := 0o400

/-- The process has one more descriptor. -/
def Opened (w : W) (path : RuntimePath) (d : Disk W) (r : Except PyExn RuntimePath)
    (d' : Disk W) : Prop :=
  r = .ok path ∧ d'.opened = Function.update d.opened w (path :: d.opened w)

/-- The answers when nothing fails, for files of the user that the processes run as. A new file
has a mode that is masked, but in a system that is not faulty its owner may read it. Without
that permission only a privileged process opens a file. -/
def Answers (faulty : Prop) (w : W) : Server guardSignature (Disk W)
  | d, .create path, r, d' =>
    match d.node path with
    | .absent => Opened w path d r d' ∧ ∃ mask, (faulty ∨ mask &&& ownerRead ≠ 0) ∧
      d'.node = Function.update d.node path (.regular (databaseFileMode &&& mask) (.bytes []))
    | _ => r = .error RuntimeFiles.fileExists ∧ d' = d
  | d, .openExisting path, r, d' =>
    match d.node path with
    | .absent => IsOsError r ∧ d' = d
    | .link _ => IsOsError r ∧ d' = d
    | .regular permissions _ => (Opened w path d r d' ∧ d'.node = d.node) ∨
      permissions &&& ownerRead = 0 ∧ IsOsError r ∧ d' = d
    | _ => (Opened w path d r d' ∧ d'.node = d.node) ∨ IsOsError r ∧ d' = d
  | d, .fstat path, r, d' => r = .ok (d.node path).stMode ∧ d' = d
  | d, .fchmod path mode, r, d' => r = .ok () ∧ d'.opened = d.opened ∧
    d'.node = Function.update d.node path ((d.node path).chmod (permissions mode))
  | d, .close path, r, d' => r = .ok () ∧ d'.node = d.node ∧
    d'.opened = Function.update d.opened w ((d.opened w).erase path)

/-- A descriptor is lost also when closing it fails, and it is a number. -/
def Fails (w : W) (d : Disk W) (c : GuardCall) (r : Reply guardSignature c) (d' : Disk W) : Prop :=
  ∃ e, r = .error e ∧ match c with
    | .close path => (IsOsClass e ∨ e.cls ∉ caught) ∧ d'.node = d.node ∧
      d'.opened = Function.update d.opened w ((d.opened w).erase path)
    | _ => d' = d

/-- Calls can fail if the system is faulty. -/
def Serves (faulty : Prop) (w : W) : Server guardSignature (Disk W) := fun d c r d' =>
  Answers faulty w d c r d' ∨ faulty ∧ Fails w d c r d'

end Disk

section Purpose

/-- What becomes of a file: it stays, it is created for its owner, or it is tightened. -/
inductive Evolved (faulty : Prop) : Node → Node → Prop where
  | same (node : Node) : Evolved faulty node node
  | created {permissions : ℕ} (h : permissions &&& 0o077 = 0)
    (hread : faulty ∨ permissions &&& ownerRead ≠ 0) :
    Evolved faulty .absent (.regular permissions (.bytes []))
  | tightened (permissions : ℕ) (content : Content) :
    Evolved faulty (.regular permissions content) (.regular databaseFileMode content)

def OwnerOnly (node : Node) : Prop := ∃ content, node = .regular databaseFileMode content

/-- The nodes that can be secured: nothing, and files that their owner may read. -/
def Usable : Node → Prop
  | .absent => True
  | .regular permissions _ => permissions &&& ownerRead ≠ 0
  | _ => False

end Purpose

section Discipline

/-- How far a call of the function has come, and which descriptor it has. -/
inductive Phase where
  | start
  | taken
  | refused
  | opened (descriptor : RuntimePath)
  | checked (descriptor : RuntimePath)
  | tightened (descriptor : RuntimePath)
  | secured (descriptor : RuntimePath)
  | spoiled (descriptor : RuntimePath)
  | closed (good : Bool) (failure : Option PyExn)

/-- The calls for one path, in their order. -/
def discipline (databasePath : RuntimePath) : Discipline guardSignature Phase where
  allowed
    | .start, .create path => path = databasePath
    | .taken, .openExisting path => path = databasePath
    | .opened descriptor, .fstat path => path = descriptor
    | .checked descriptor, .fchmod path mode => path = descriptor ∧ mode = databaseFileMode
    | .tightened descriptor, .fstat path => path = descriptor
    | .secured descriptor, .close path => path = descriptor
    | .spoiled descriptor, .close path => path = descriptor
    | _, _ => False
  next
    | .start, .create _, .ok descriptor => .opened descriptor
    | .start, .create _, .error e => if e.cls = .fileExistsError then .taken else .refused
    | .taken, .openExisting _, .ok descriptor => .opened descriptor
    | .taken, .openExisting _, .error _ => .refused
    | .opened descriptor, .fstat _, .ok stMode =>
      if isRegular stMode then .checked descriptor else .spoiled descriptor
    | .opened descriptor, .fstat _, .error _ => .spoiled descriptor
    | .checked descriptor, .fchmod _ _, .ok _ => .tightened descriptor
    | .checked descriptor, .fchmod _ _, .error _ => .spoiled descriptor
    | .tightened descriptor, .fstat _, .ok stMode =>
      if permissions stMode = databaseFileMode then .secured descriptor else .spoiled descriptor
    | .tightened descriptor, .fstat _, .error _ => .spoiled descriptor
    | .secured _, .close _, .ok _ => .closed true none
    | .secured _, .close _, .error e => .closed true (some e)
    | .spoiled _, .close _, .ok _ => .closed false none
    | .spoiled _, .close _, .error e => .closed false (some e)
    | φ, _, _ => φ

/-- How a call of the function ends. -/
def Ended : RuntimePath → Phase → Outcome guardSignature Unit → Prop
  | _, φ, .ret _ => ∃ failure, φ = .closed true failure
  | _, φ, .raise e =>
    (e.cls ∉ caught ∧ (φ = .refused ∨ ∃ failure, φ = .closed false failure)) ∨
      ¬ IsOsClass e ∧ ∃ good, φ = .closed good (some e)

variable {path : RuntimePath}

end Discipline

section Invariant

variable {faulty : Prop} {path : RuntimePath} {initial node node' node'' : Node} {φ : Phase}

theorem Evolved.trans (h : Evolved faulty node node') (h' : Evolved faulty node' node'') :
    Evolved faulty node node'' := by
  cases h' with
  | same => exact h
  | created hmask hread =>
    cases h with
    | same => exact .created hmask hread
  | tightened permissions content =>
    cases h with
    | same => exact .tightened _ _
    | created => exact .created (by decide) (.inr (by decide))
    | tightened => exact .tightened _ _

/-- The descriptors that are open in a phase. -/
def Phase.descriptors : Phase → List RuntimePath
  | .opened descriptor => [descriptor]
  | .checked descriptor => [descriptor]
  | .tightened descriptor => [descriptor]
  | .secured descriptor => [descriptor]
  | .spoiled descriptor => [descriptor]
  | _ => []

/-- What a phase knows of the file, and of what stood there in the beginning. -/
def Knows (faulty : Prop) (path : RuntimePath) (initial : Node) : Phase → Node → Prop
  | .start, _ => True
  | .taken, node => faulty ∨ node ≠ .absent
  | .refused, _ => faulty ∨ ¬ Usable initial
  | .opened descriptor, node => descriptor = path ∧ node ≠ .absent
  | .checked descriptor, node => descriptor = path ∧ ∃ permissions content,
    node = .regular permissions content
  | .tightened descriptor, node => descriptor = path ∧ OwnerOnly node
  | .secured descriptor, node => descriptor = path ∧ OwnerOnly node
  | .spoiled descriptor, _ => descriptor = path ∧ (faulty ∨ ¬ Usable initial)
  | .closed good failure, node => (if good then OwnerOnly node else faulty ∨ ¬ Usable initial) ∧
    ∀ e, failure = some e → faulty ∧ (IsOsClass e ∨ e.cls ∉ caught)

theorem OwnerOnly.evolved (h : OwnerOnly node) (hevolved : Evolved faulty node node') :
    OwnerOnly node' := by
  obtain ⟨content, rfl⟩ := h
  cases hevolved with
  | same => exact ⟨content, rfl⟩
  | tightened => exact ⟨content, rfl⟩

/-- What could be secured can still be secured. -/
theorem Usable.evolved (h : Usable node) (hevolved : Evolved faulty node node') :
    faulty ∨ Usable node' := by
  cases hevolved with
  | same => exact .inr h
  | created hmask hread => exact hread
  | tightened => exact .inr (show databaseFileMode &&& ownerRead ≠ 0 by decide)

theorem present_evolved (h : node ≠ .absent) (hevolved : Evolved faulty node node') :
    node' ≠ .absent := by
  cases hevolved with
  | same => exact h
  | created => exact absurd rfl h
  | tightened => exact fun hnode => by cases hnode

/-- No other process takes back what a phase knows. -/
theorem Knows.evolved (h : Knows faulty path initial φ node)
    (hevolved : Evolved faulty node node') : Knows faulty path initial φ node' := by
  cases φ with
  | start => trivial
  | taken => exact h.imp_right fun hpresent => present_evolved hpresent hevolved
  | refused => exact h
  | opened descriptor => exact ⟨h.1, present_evolved h.2 hevolved⟩
  | checked descriptor =>
    obtain ⟨hdescriptor, permissions, content, rfl⟩ := h
    refine ⟨hdescriptor, ?_⟩
    cases hevolved with
    | same => exact ⟨_, _, rfl⟩
    | tightened => exact ⟨_, _, rfl⟩
  | tightened descriptor => exact ⟨h.1, h.2.evolved hevolved⟩
  | secured descriptor => exact ⟨h.1, h.2.evolved hevolved⟩
  | spoiled descriptor => exact h
  | closed good failure =>
    refine ⟨?_, h.2⟩
    have hfile := h.1
    cases good with
    | true => exact OwnerOnly.evolved hfile hevolved
    | false => exact hfile

/-- A process in this phase holds the descriptors of the phase and knows its file. -/
def Standing (faulty : Prop) (disk : Disk W) (w : W) (path : RuntimePath) (φ : Phase)
    (d : Disk W) : Prop :=
  d.opened w = φ.descriptors ∧ Knows faulty path (disk.node path) φ (d.node path)

end Invariant

section Steps

variable {faulty : Prop} {disk : Disk W} {w : W} {path : RuntimePath} {d d' : Disk W} {φ : Phase}

variable [DecidableEq W]

end Steps

section Processes

variable {faulty : Prop} {disk : Disk W}

abbrev GuardLabel (W : Type) : Type := Label guardSignature W RuntimePath Unit

abbrev GuardPool (W : Type) : Type := Pool guardSignature W (Disk W) RuntimePath Unit

/-- What a call has established when it ends. -/
def Established (faulty : Prop) (disk : Disk W) (path : RuntimePath) :
    Outcome guardSignature Unit → Disk W → Prop
  | .ret _, d => OwnerOnly (d.node path)
  | .raise e, _ => e.cls ∉ caught ∧ (faulty ∨ ¬ Usable (disk.node path))

theorem Established.evolved {path : RuntimePath} {d d' : Disk W}
    {o : Outcome guardSignature Unit} (h : Established faulty disk path o d)
    (hfiles : ∀ other, Evolved faulty (d.node other) (d'.node other)) :
    Established faulty disk path o d' := by
  cases o with
  | ret _ => exact OwnerOnly.evolved h (hfiles path)
  | raise e => exact h

variable [DecidableEq W]

/-- A disk without files. -/
def emptyDisk (W : Type) : Disk W := ⟨fun _ => .absent, fun _ => [], fun _ => trivial⟩

end Processes

section Example

/-- The bits of a mode are its permissions, and what is above them. -/
theorem valid_chmod (node : Node) (mode : ℕ) (h : Valid node) :
    Valid (node.chmod (permissions mode)) := by
  have hmode : permissions mode < 0o10000 :=
    lt_of_le_of_lt Nat.and_le_right (by decide)
  cases node with
  | regular _ content => exact hmode
  | directory _ => exact hmode
  | _ => trivial

theorem valid_update {d : Disk Bool} {path : RuntimePath} {node : Node} (h : Valid node)
    (other : RuntimePath) : Valid (Function.update d.node path node other) := by
  by_cases hother : other = path
  · rw [hother, Function.update_self]
    exact h
  · rw [Function.update_of_ne hother]
    exact d.valid other

def exampleAnswer (w : Bool) (d : Disk Bool) :
    (c : GuardCall) → Reply guardSignature c × Disk Bool
  | .create path =>
    match d.node path with
    | .absent => (.ok path, ⟨Function.update d.node path (.regular databaseFileMode (.bytes [])),
        Function.update d.opened w (path :: d.opened w),
        valid_update (show databaseFileMode < 0o10000 by decide)⟩)
    | _ => (.error RuntimeFiles.fileExists, d)
  | .openExisting path =>
    match d.node path with
    | .absent => (.error (raised .osError []), d)
    | .link _ => (.error (raised .osError []), d)
    | .regular permissions _ =>
      if permissions &&& ownerRead = 0 then (.error (raised .osError []), d)
      else (.ok path, { d with opened := Function.update d.opened w (path :: d.opened w) })
    | _ => (.ok path, { d with opened := Function.update d.opened w (path :: d.opened w) })
  | .fstat path => (.ok (d.node path).stMode, d)
  | .fchmod path mode => (.ok (), ⟨Function.update d.node path
      ((d.node path).chmod (permissions mode)), d.opened,
      valid_update (valid_chmod _ _ (d.valid path))⟩)
  | .close path =>
    (.ok (), { d with opened := Function.update d.opened w ((d.opened w).erase path) })

def examplePath : RuntimePath := ⟨py "runtime", py "audit.db"⟩

/-- Two processes open the same missing database, step by step in turn. -/
def exampleRun : List (GuardLabel Bool) × GuardPool Bool :=
  runSchedule ensureOwnerOnlyDatabaseFile exampleAnswer
    ([(true, some examplePath), (false, some examplePath)] ++
      (List.replicate 8 [(true, none), (false, none)]).flatten) ([], ⟨(emptyDisk Bool).idle,
        fun _ => none⟩)

def returnedPast : GuardLabel Bool → Option (List (Event guardSignature))
  | .returned false path past _ => if path = examplePath then some past else none
  | _ => none

end Example

end PamMvp.OwnerOnlyFiles
