import PamMvp.ConfigurationDatabase
import PamMvp.KeyFiles
import PamMvp.RecordedEvents
import PamMvp.RuntimeConfiguration
import PamMvp.SshConnecting
import PamMvp.UserAuthentication

/-!
# The files of a runtime directory

The provisioning tool and the application work on the same files: two keys and four
databases in one directory. A call answers for the path that it is given, whichever of the
two makes it, and the next call finds what it left there.
-/
namespace PamMvp.RuntimeFiles
open InteractionPrograms SharedPrograms PythonText DomainModel SqliteValues SqliteParameters
  ConfigurationDatabase AdapterSchemas EnforcedUniqueness CreatedTables RecordedEvents
  UserAuthentication RuntimeConfiguration SshConnecting

/-- The tables of the audit, authentication and vault adapters, and those of the
configuration adapters. -/
structure SqliteFile where
  database : Database
  config : ConfigDb

def SqliteFile.empty : SqliteFile := ⟨emptyFile, ConfigDb.empty⟩

inductive Content where
  | bytes (data : Bytes)
  | sqlite (file : SqliteFile)

/-- An empty file is an empty database. -/
def Content.sqlite? : Content → Option SqliteFile
  | .bytes [] => some .empty
  | .bytes _ => none
  | .sqlite file => some file

/-- What stands under a path; a link holds the path that it resolves to. -/
inductive Node where
  | absent
  | regular (permissions : ℕ) (content : Content)
  | directory (permissions : ℕ)
  | link (target : RuntimePath)
  | special

namespace Node

def isLink : Node → Bool
  | .link _ => true
  | _ => false

/-- `Path.exists`; a link may lead nowhere. -/
def Exists : Node → Bool → Prop
  | .absent, found => found = false
  | .link _, _ => True
  | _, found => found = true

/-- `st_mode`. -/
def stMode : Node → ℕ
  | .regular permissions _ => 0o100000 + permissions
  | .directory permissions => 0o040000 + permissions
  | _ => 0o010000

def chmod (mode : ℕ) : Node → Node
  | .regular _ content => .regular mode content
  | .directory _ => .directory mode
  | node => node

/-- What an adapter finds: a missing database is created, and no link is followed. -/
def database? : Node → Option SqliteFile
  | .absent => some .empty
  | .regular _ content => content.sqlite?
  | _ => none

/-- `FileKeyProvider(path).get_key()`. -/
def key : Node → Except PyExn Bytes
  | .regular permissions content =>
    if permissions &&& KeyFiles.FileKeyProvider.forbiddenPermissionBits ≠ 0 then
      .error (raised .keyProviderError (py "master key file permissions are too broad"))
    else
      match content with
      | .bytes data =>
        if data.length = KeyFiles.FileKeyProvider.keySize then .ok data
        else .error (raised .keyProviderError (py "master key must be exactly 32 bytes"))
      | .sqlite _ => .error (raised .keyProviderError (py "master key must be exactly 32 bytes"))
  | .absent => .error (raised .keyProviderError (py "master key file does not exist"))
  | _ => .error (raised .keyProviderError (py "master key path must identify a regular file"))

section Keys

/-- The type of a file and its permissions are different bits of `st_mode`. -/
theorem stMode_regular {permissions : ℕ} (h : permissions < 0o10000) :
    KeyFiles.isRegular (0o100000 + permissions) = true ∧
      KeyFiles.permissions (0o100000 + permissions) = permissions := by
  have hsplit : 0o100000 + permissions = 2 ^ 12 * 8 ||| permissions :=
    Nat.two_pow_add_eq_or_of_lt (i := 12) h 8
  have hnone : permissions &&& 0o170000 = 0 := by
    apply Nat.eq_of_testBit_eq
    intro i
    rw [Nat.testBit_and, Nat.zero_testBit, Bool.and_eq_false_iff]
    by_cases hi : i < 12
    · right
      change Nat.testBit (15 <<< 12) i = false
      rw [Nat.testBit_shiftLeft, Bool.and_eq_false_iff]
      exact .inl (decide_eq_false (by omega))
    · left
      have hpow : 2 ^ 12 ≤ 2 ^ i := Nat.pow_le_pow_right (by decide) (not_lt.mp hi)
      exact Nat.testBit_lt_two_pow (h.trans_le hpow)
  constructor
  · rw [KeyFiles.isRegular, hsplit, Nat.and_or_distrib_right, hnone]
    decide
  · rw [KeyFiles.permissions, hsplit, Nat.and_or_distrib_right]
    change _ ||| permissions &&& (2 ^ 12 - 1) = _
    rw [Nat.and_two_pow_sub_one_of_lt_two_pow h]
    simp

open TotalPrograms

/-- `key` is how `get_key` ends on the file, however its reads are cut up. -/
theorem key_getKey (provider : KeyFiles.FileKeyProvider) (fd : ℕ) {permissions : ℕ}
    (h : permissions < 0o10000) (data : Bytes) :
    TotalOn KeyFiles.KeyFile.Serves
      (fun o _ => o = match (regular permissions (.bytes data)).key with
        | .ok key => .ret key
        | .error e => .raise (.other e))
      provider.getKey ⟨data, (regular permissions (.bytes data)).stMode, 0, 0⟩ := by
  obtain ⟨hregular, hpermissions⟩ := stMode_regular h
  by_cases hbroad : permissions &&& KeyFiles.FileKeyProvider.forbiddenPermissionBits ≠ 0
  · have hrefused (descriptor : ℕ) := KeyFiles.readChecked_refused
      ⟨data, 0o100000 + permissions, 0, 0⟩ descriptor hregular (by rwa [hpermissions])
    refine (KeyFiles.getKey_total provider fd hrefused).mono fun o _ ho => ?_
    rw [ho, key, if_pos hbroad]
    rfl
  · have hread (descriptor : ℕ) := KeyFiles.readChecked_total
      ⟨data, 0o100000 + permissions, 0, 0⟩ descriptor hregular
      (by rw [hpermissions]; exact not_not.mp hbroad) rfl
    refine (KeyFiles.getKey_total provider fd hread).mono fun o _ ho => ?_
    rw [ho, key, if_neg hbroad, KeyFiles.FileKeyProvider.keyOutcome]
    have hlength := KeyFiles.take_length_eq_iff data
    by_cases hsize : data.length = KeyFiles.FileKeyProvider.keySize
    · rw [if_neg (not_not_intro (hlength.mpr hsize)), if_pos hsize,
        List.take_of_length_le (hsize.trans_le (by decide))]
    · rw [if_pos (mt hlength.mp hsize), if_neg hsize]
      rfl

end Keys

end Node

/-- `Path(directory).parents`, without the root. -/
def parents (directory : PyStr) : List PyStr :=
  (directory.inits.filter fun path =>
    !path.isEmpty && (path ++ py "/").isPrefixOf directory).reverse

example : parents (py "/srv/pam/run") = [py "/srv/pam", py "/srv"] := by decide

/-- What SQLite keeps beside a database while it works on it. -/
def sideSuffixes : List PyStr := [py "-journal", py "-wal", py "-shm"]

/-- The directories and files, and what their paths are without links. -/
structure FileSystem where
  directory : PyStr → Node
  node : RuntimePath → Node
  canonical : PyStr → PyStr

namespace FileSystem

def put (files : FileSystem) (path : RuntimePath) (node : Node) : FileSystem :=
  { files with node := Function.update files.node path node }

def putDirectory (files : FileSystem) (path : PyStr) (node : Node) : FileSystem :=
  { files with directory := Function.update files.directory path node }

/-- A database file is owner-only after an adapter used it. -/
def write (files : FileSystem) (path : RuntimePath) (file : SqliteFile) : FileSystem :=
  files.put path (.regular 0o600 (.sqlite file))

/-- `Path.resolve(strict=False)`. -/
def resolve (files : FileSystem) (path : RuntimePath) : RuntimePath :=
  match files.node path with
  | .link target => target
  | _ => ⟨files.canonical path.directory, path.name⟩

/-- What SQLite finds in a path: a missing file is an empty database. -/
def sqlite (files : FileSystem) (path : RuntimePath) : SqliteFile :=
  (files.node path).database?.getD .empty

/-- The path is that of a side file of the database. -/
def Side (files : FileSystem) (database path : RuntimePath) : Prop :=
  files.canonical path.directory = files.canonical database.directory ∧
    ∃ suffix ∈ sideSuffixes, path.name = database.name ++ suffix

@[simp] theorem node_put_self (files : FileSystem) (path : RuntimePath) (node : Node) :
    (files.put path node).node path = node :=
  Function.update_self _ _ _

theorem node_put_of_ne (files : FileSystem) {path other : RuntimePath} (node : Node)
    (h : other ≠ path) : (files.put path node).node other = files.node other :=
  Function.update_of_ne h _ _

theorem directory_putDirectory_self (files : FileSystem) (path : PyStr) (node : Node) :
    (files.putDirectory path node).directory path = node :=
  Function.update_self _ _ _

theorem directory_putDirectory_of_ne (files : FileSystem) {path other : PyStr} (node : Node)
    (h : other ≠ path) : (files.putDirectory path node).directory other = files.directory other :=
  Function.update_of_ne h _ _

end FileSystem

section Calls

/-- A descriptor stands for what it was opened on. -/
inductive Descriptor where
  | directory (path : PyStr)
  | file (path : RuntimePath)

inductive RuntimeCall where
  | isSymlink (directory : PyStr)
  | directoryExists (directory : PyStr)
  | mkdir (directory : PyStr) (mode : ℕ)
  | openDirectory (directory : PyStr)
  | fchmod (descriptor : Descriptor) (mode : ℕ)
  | fstat (descriptor : Descriptor)
  | close (descriptor : Descriptor)
  | fileExists (path : RuntimePath)
  | createKey (path : RuntimePath)
  | tokenBytes (count : ℕ)
  | writeKey (descriptor : Descriptor) (key : Bytes)
  | getKey (path : RuntimePath)
  | resolve (path : RuntimePath)
  | readSecret (prompt : PyStr)
  | umask (mode : ℕ)
  | openAudit (path keyPath : RuntimePath)
  | openUserAuth (path : RuntimePath)
  | openVault (path : RuntimePath)
  | configure (path : RuntimePath) (operation : ConfigurationDatabase.Operation)
  | createUser (path : RuntimePath) (user : User) (password : PyStr)
  | storeCredential (path : RuntimePath) (key : Bytes) (ref : CredentialRef) (plaintext : Bytes)
  | hashToken

/-- The database that an adapter works on. -/
def databasePath : RuntimeCall → Option RuntimePath
  | .openAudit path _ => some path
  | .openUserAuth path => some path
  | .openVault path => some path
  | .configure path _ => some path
  | .createUser path _ _ => some path
  | .storeCredential path _ _ _ => some path
  | _ => none

abbrev RuntimeCall.Answer : RuntimeCall → Type
  | .isSymlink _ => Bool
  | .directoryExists _ => Bool
  | .openDirectory _ => Descriptor
  | .fstat _ => ℕ
  | .fileExists _ => Bool
  | .createKey _ => Descriptor
  | .tokenBytes _ => Bytes
  | .getKey _ => Bytes
  | .resolve _ => RuntimePath
  | .readSecret _ => PyObject
  | .umask _ => ℕ
  | .hashToken => PyStr
  | _ => Unit

abbrev runtimeSignature : Signature := ⟨RuntimeCall, RuntimeCall.Answer, PyExn⟩

abbrev Setup (α : Type) : Type := Prog runtimeSignature Unit α

def ask (c : RuntimeCall) : Setup c.Answer := Prog.perform (S := runtimeSignature) c

def throw {α : Type} (e : PyExn) : Setup α := Prog.raise (S := runtimeSignature) e

def lift {α : Type} (r : Except PyExn α) : Setup α := Prog.ofReply (S := runtimeSignature) r

end Calls

/-- `AesGcmSecretCipher(key)`. -/
def newCipher (key : Bytes) : Except PyExn Unit :=
  if key.length = KeyFiles.FileKeyProvider.keySize then .ok ()
  else .error (raised .secretCipherError (py "AES-GCM key must be exactly 32 bytes"))

section Environment

/-- `argon2.PasswordHasher`. A hash depends on a random salt, and `false` stands for a
`VerificationError`. -/
structure Argon2 where
  hash : Bytes → PyStr → Except PyExn PyStr
  verify : PyStr → PyStr → Except PyExn Bool
  verify_exception : ∀ encodedHash password e, verify encodedHash password = .error e →
    e.isException = true

namespace Argon2

/-- `Argon2PasswordHasher.hash_password`. -/
def hashPassword (argon2 : Argon2) (salt : Bytes) (password : PyStr) : Except PyExn PyStr :=
  (argon2.hash salt password).mapError fun e =>
    if e.isException then raised .passwordHashingError (py "password could not be hashed") else e

/-- `Argon2PasswordHasher.verify`. -/
def verifyPassword (argon2 : Argon2) (password encodedHash : PyStr) : Except PyExn PyObject :=
  match argon2.verify encodedHash password with
  | .ok verified => .ok (.bool verified)
  | .error e =>
    if e.cls ∈ [ExnClass.valueError, .typeError, .unicodeEncodeError, .unicodeDecodeError] then
      .ok (.bool false)
    else .error e

end Argon2

/-- The libraries and the terminal. -/
structure Environment where
  gcm : Bytes → CredentialVault.AesGcm
  argon2 : Argon2
  readSecret : PyStr → Except PyExn PyObject

/-- What is assumed of the libraries. -/
structure Environment.Reliable (env : Environment) : Prop where
  decrypts : ∀ key nonce plaintext ciphertext,
    (env.gcm key).encrypt nonce plaintext none = .ok ciphertext →
      (env.gcm key).decrypt nonce ciphertext none = .ok plaintext
  verifies : ∀ salt password encodedHash, env.argon2.hash salt password = .ok encodedHash →
    env.argon2.verify encodedHash password = .ok true
  hashes : ∀ salt token, ascii token = true → ∃ encodedHash,
    env.argon2.hash salt token = .ok encodedHash

end Environment

section Server

/-- A call of an adapter on the database at a path. -/
def FileSystem.Uses (files : FileSystem) (path : RuntimePath)
    (call : SqliteFile → Except PyExn Unit → SqliteFile → Prop) (r : Except PyExn Unit)
    (files' : FileSystem) : Prop :=
  match (files.node path).database? with
  | none => (∃ e, r = .error e) ∧ files' = files
  | some file => ∃ file', call file r file' ∧ files' = files.write path file'

/-- The constructor of an adapter. -/
def Constructs (repository : AdapterSchemas.Repository) (key : PyValue) (file : SqliteFile)
    (r : Except PyExn Unit) (file' : SqliteFile) : Prop :=
  ∃ o c, execOn (AdapterSchemas.answer key) repository.construct ⟨file.database, none⟩ =
    some (o, c) ∧ r = result o ∧ file' = { file with database := c.committed }

def Configures (operation : ConfigurationDatabase.Operation) (file : SqliteFile)
    (r : Except PyExn Unit) (file' : SqliteFile) : Prop :=
  match operation.run file.config with
  | .ok config => r = .ok () ∧ file' = { file with config := config }
  | .error e => r = .error e ∧ file' = file

def Performs {repository : AdapterSchemas.Repository}
    (operation : EnforcedUniqueness.Operation repository) (file : SqliteFile)
    (r : Except PyExn Unit) (file' : SqliteFile) : Prop :=
  ∃ db, operation.perform newest file.database = some (r, db) ∧
    file' = { file with database := db }

def fileExists : PyExn := raised .fileExistsError (py "File exists")

def IsOsError {α : Type} (r : Except PyExn α) : Prop := ∃ e, r = .error e ∧ e.cls = .osError

/-- `path.mkdir(parents=True, exist_ok=True)` for the first of these directories; the others
contain it, the innermost one first. A link may lead nowhere. -/
def Makes : List PyStr → FileSystem → Except PyExn Unit → FileSystem → Prop
  | [], files, r, files' => r = .ok () ∧ files' = files
  | path :: parents, files, r, files' =>
    match files.directory path with
    | .absent => ∃ r₁ files₁, Makes parents files r₁ files₁ ∧ match r₁ with
      | .ok _ => r = .ok () ∧
        ∃ permissions, files' = files₁.putDirectory path (.directory permissions)
      | .error e => r = .error e ∧ files' = files₁
    | .directory _ => r = .ok () ∧ files' = files
    | .link _ => (r = .ok () ∨ ∃ e, r = .error e) ∧ files' = files
    | _ => (∃ e, r = .error e ∧ (e.cls = .osError ∨ e.cls = .fileExistsError)) ∧ files' = files

/-- The answers when nothing fails. -/
def Answers (env : Environment) : Server runtimeSignature FileSystem
  | files, .isSymlink path, r, files' =>
    r = .ok (files.directory path).isLink ∧ files' = files
  | files, .directoryExists path, r, files' =>
    (∃ found, r = .ok found ∧ (files.directory path).Exists found) ∧ files' = files
  | files, .mkdir path _, r, files' => Makes (path :: parents path) files r files'
  | files, .openDirectory path, r, files' =>
    match files.directory path with
    | .directory _ => r = .ok (.directory path) ∧ files' = files
    | _ => IsOsError r ∧ files' = files
  | files, .fchmod (.directory path) mode, r, files' =>
    r = .ok () ∧ files' = files.putDirectory path ((files.directory path).chmod mode)
  | files, .fchmod (.file path) mode, r, files' =>
    r = .ok () ∧ files' = files.put path ((files.node path).chmod mode)
  | files, .fstat (.directory path), r, files' =>
    r = .ok (files.directory path).stMode ∧ files' = files
  | files, .fstat (.file path), r, files' => r = .ok (files.node path).stMode ∧ files' = files
  | files, .close _, r, files' => r = .ok () ∧ files' = files
  | files, .fileExists path, r, files' =>
    (∃ found, r = .ok found ∧ (files.node path).Exists found) ∧ files' = files
  | files, .createKey path, r, files' =>
    match files.node path with
    | .absent => r = .ok (.file path) ∧ ∃ permissions,
      files' = files.put path (.regular permissions (.bytes []))
    | _ => r = .error fileExists ∧ files' = files
  | files, .tokenBytes count, r, files' =>
    (∃ data, r = .ok data ∧ data.length = count) ∧ files' = files
  | files, .writeKey descriptor key, r, files' =>
    match descriptor with
    | .file path =>
      match files.node path with
      | .regular permissions _ =>
        r = .ok () ∧ files' = files.put path (.regular permissions (.bytes key))
      | _ => IsOsError r ∧ files' = files
    | .directory _ => IsOsError r ∧ files' = files
  | files, .getKey path, r, files' => r = (files.node path).key ∧ files' = files
  | files, .resolve path, r, files' => r = .ok (files.resolve path) ∧ files' = files
  | files, .readSecret prompt, r, files' => r = env.readSecret prompt ∧ files' = files
  | files, .umask _, r, files' => (∃ previous, r = .ok previous) ∧ files' = files
  | files, .openAudit path keyPath, r, files' =>
    match (files.node keyPath).key with
    | .error _ => (∃ e, r = .error e) ∧ files' = files
    | .ok key => files.Uses path (Constructs .audit (.bytes key)) r files'
  | files, .openUserAuth path, r, files' =>
    files.Uses path (Constructs .userAuth .none) r files'
  | files, .openVault path, r, files' => files.Uses path (Constructs .vault .none) r files'
  | files, .configure path operation, r, files' =>
    files.Uses path (Configures operation) r files'
  | files, .createUser path user password, r, files' => ∃ salt,
    files.Uses path (Performs (.createUser user
      ((env.argon2.hashPassword salt password).map .str))) r files'
  | files, .storeCredential path key ref plaintext, r, files' => ∃ nonce : Bytes,
    nonce.length = 12 ∧ files.Uses path (Performs (.store
      (CredentialVault.encrypt (env.gcm key) nonce plaintext) ref)) r files'
  | files, .hashToken, r, files' =>
    (∃ salt token, ascii token = true ∧ r = env.argon2.hashPassword salt token) ∧ files' = files

/-- A call that fails may leave anything behind. Closing changes nothing, and a key file
that is not there does not exist already. -/
def Fails (files : FileSystem) (c : RuntimeCall) (r : Reply runtimeSignature c)
    (files' : FileSystem) : Prop :=
  ∃ e, r = .error e ∧ match c with
    | .close _ => files' = files
    | .createKey _ => e.cls ≠ .fileExistsError
    | _ => True

def Serves (env : Environment) : Server runtimeSignature FileSystem := fun files c r files' =>
  Answers env files c r files' ∨ Fails files c r files'

end Server

section Directories

variable {paths : List PyStr} {files files' : FileSystem} {r : Except PyExn Unit}

/-- Directories appear where nothing was, and nothing else changes. -/
structure Made (paths : List PyStr) (files files' : FileSystem) : Prop where
  node : files'.node = files.node
  canonical : files'.canonical = files.canonical
  directory : ∀ directory, files'.directory directory = files.directory directory ∨
    directory ∈ paths ∧ files.directory directory = .absent ∧
      ∃ permissions, files'.directory directory = .directory permissions

theorem Makes.made (h : Makes paths files r files') : Made paths files files' := by
  have hsame {paths : List PyStr} {files' : FileSystem} (h : files' = files) :
      Made paths files files' := by
    rw [h]
    exact ⟨rfl, rfl, fun _ => .inl rfl⟩
  induction paths generalizing r files' with
  | nil => exact hsame h.2
  | cons path paths ih =>
    simp only [Makes] at h
    split at h
    · rename_i habsent
      obtain ⟨r₁, files₁, hmakes, h⟩ := h
      obtain ⟨hnode, hcanonical, hdirectory⟩ := ih hmakes
      have hearlier (directory : PyStr) : files₁.directory directory = files.directory directory ∨
          directory ∈ path :: paths ∧ files.directory directory = .absent ∧
            ∃ permissions, files₁.directory directory = .directory permissions :=
        (hdirectory directory).imp_right fun h => ⟨List.mem_cons_of_mem path h.1, h.2⟩
      cases r₁ with
      | error e =>
        obtain ⟨-, rfl⟩ := h
        exact ⟨hnode, hcanonical, hearlier⟩
      | ok u =>
        obtain ⟨-, permissions, rfl⟩ := h
        refine ⟨hnode, hcanonical, fun directory => ?_⟩
        by_cases hpath : directory = path
        · rw [hpath]
          have hself := files₁.directory_putDirectory_self path (.directory permissions)
          exact .inr ⟨List.mem_cons_self, habsent, permissions, hself⟩
        · rw [files₁.directory_putDirectory_of_ne _ hpath]
          exact hearlier directory
    · exact hsame h.2
    · exact hsame h.2
    · exact hsame h.2

end Directories

section Adapters

variable {repository : AdapterSchemas.Repository} {key : PyValue} {file file' : SqliteFile}
  {rows : List (List SqlValue)} {r : Except PyExn Unit}

/-- Of a constructor that returns there is one outcome. -/
theorem constructs_iff {db : Database}
    (hexec : execOn (AdapterSchemas.answer key) repository.construct ⟨file.database, none⟩ =
      some (.ret (), ⟨db, none⟩)) :
    Constructs repository key file r file' ↔ r = .ok () ∧ file' = { file with database := db } := by
  constructor
  · intro h
    obtain ⟨o, c, hrun, rfl, rfl⟩ := h
    have hsame := hrun.symm.trans hexec
    simp only [Option.some.injEq, Prod.mk.injEq] at hsame
    obtain ⟨rfl, rfl⟩ := hsame
    exact ⟨rfl, rfl⟩
  · intro h
    obtain ⟨rfl, rfl⟩ := h
    exact ⟨_, _, hexec, rfl, rfl⟩

/-- A constructor creates its table in a missing file. -/
theorem constructs_empty (repository : AdapterSchemas.Repository) (key : PyValue)
    (hkey : KeyFor key repository) :
    ∃ db, Holding repository db [] ∧ ∀ r file', Constructs repository key .empty r file' ↔
      r = .ok () ∧ file' = ⟨db, ConfigDb.empty⟩ := by
  obtain ⟨db, hcreated, hholding⟩ := emptyFile_created repository hkey
  exact ⟨db, hholding, fun r file' => constructs_iff hcreated⟩

/-- The next constructor leaves the file as it is. -/
theorem constructs_holding (hholding : Holding repository file.database rows)
    (hkey : KeyFor key repository) :
    Constructs repository key file r file' ↔ r = .ok () ∧ file' = file :=
  constructs_iff (hholding.reopens hkey)

end Adapters

section Directory

/-- The four databases of a runtime directory. -/
inductive Role where
  | auth
  | config
  | vault
  | audit
  deriving DecidableEq

def Role.fileName : Role → PyStr
  | .auth => py "auth.db"
  | .config => py "config.db"
  | .vault => py "vault.db"
  | .audit => py "audit.db"

def Role.path (directory : PyStr) (role : Role) : RuntimePath := ⟨directory, role.fileName⟩

def vaultKeyPath (directory : PyStr) : RuntimePath := ⟨directory, py "vault.key"⟩

def auditKeyPath (directory : PyStr) : RuntimePath := ⟨directory, py "audit.key"⟩

/-- Two keys can be read and the databases show these tables. -/
structure Stands (directory : PyStr) (vaultKey auditKey : Bytes) (shown : Role → SqliteFile)
    (files : FileSystem) : Prop where
  vaultKey : (files.node (vaultKeyPath directory)).key = .ok vaultKey
  auditKey : (files.node (auditKeyPath directory)).key = .ok auditKey
  database : ∀ role : Role, (files.node (role.path directory)).database? = some (shown role)

variable {directory : PyStr} {vaultKey auditKey : Bytes} {shown : Role → SqliteFile}
  {files files' : FileSystem} {role : Role}

theorem path_ne {name name' : PyStr} (h : name ≠ name') :
    (⟨directory, name⟩ : RuntimePath) ≠ ⟨directory, name'⟩ := by
  intro hpath
  exact h (congrArg RuntimePath.name hpath)

theorem Role.fileName_injective : Function.Injective Role.fileName := by
  intro role role' h
  cases role <;> cases role' <;> first
    | rfl
    | exact absurd h (by decide)

theorem Role.path_ne_key (role : Role) :
    role.path directory ≠ vaultKeyPath directory ∧
      role.path directory ≠ auditKeyPath directory := by
  constructor
  · apply path_ne
    cases role <;> decide
  · apply path_ne
    cases role <;> decide

theorem key_regular {node : Node} {key : Bytes} (h : node.key = .ok key) :
    (∃ permissions content, node = .regular permissions content) ∧
      key.length = KeyFiles.FileKeyProvider.keySize := by
  cases node with
  | regular permissions content =>
    refine ⟨⟨permissions, content, rfl⟩, ?_⟩
    simp only [Node.key] at h
    split_ifs at h
    cases content with
    | bytes data =>
      simp only at h
      split_ifs at h with hlength
      cases h
      exact hlength
    | sqlite file => cases h
  | _ => cases h

/-- No link stands in a runtime directory. -/
theorem Stands.resolve_key (h : Stands directory vaultKey auditKey shown files) :
    files.resolve (vaultKeyPath directory) = ⟨files.canonical directory, py "vault.key"⟩ ∧
      files.resolve (auditKeyPath directory) = ⟨files.canonical directory, py "audit.key"⟩ := by
  obtain ⟨⟨_, _, hvault⟩, -⟩ := key_regular h.vaultKey
  obtain ⟨⟨_, _, haudit⟩, -⟩ := key_regular h.auditKey
  constructor
  · rw [FileSystem.resolve, hvault]
    rfl
  · rw [FileSystem.resolve, haudit]
    rfl

theorem Stands.resolve_database (h : Stands directory vaultKey auditKey shown files)
    (role : Role) : files.resolve (role.path directory) =
      ⟨files.canonical directory, role.fileName⟩ := by
  have hdatabase := h.database role
  unfold FileSystem.resolve
  cases hnode : files.node (role.path directory) with
  | link target =>
    rw [hnode] at hdatabase
    cases hdatabase
  | _ => rfl

/-- Writing one database changes no other, and no key. -/
theorem Stands.write (h : Stands directory vaultKey auditKey shown files) (role : Role)
    (file : SqliteFile) : Stands directory vaultKey auditKey (Function.update shown role file)
      (files.write (role.path directory) file) := by
  refine ⟨?_, ?_, ?_⟩
  · rw [FileSystem.write, files.node_put_of_ne _ role.path_ne_key.1.symm]
    exact h.vaultKey
  · rw [FileSystem.write, files.node_put_of_ne _ role.path_ne_key.2.symm]
    exact h.auditKey
  · intro other
    by_cases hrole : other = role
    · rw [hrole, FileSystem.write, FileSystem.node_put_self, Function.update_self]
      rfl
    · have hpath : other.path directory ≠ role.path directory :=
        path_ne fun hname => hrole (Role.fileName_injective hname)
      rw [FileSystem.write, files.node_put_of_ne _ hpath, Function.update_of_ne hrole]
      exact h.database other

theorem Stands.rewrite (h : Stands directory vaultKey auditKey shown files) (role : Role) :
    Stands directory vaultKey auditKey shown (files.write (role.path directory) (shown role)) := by
  have hwritten := h.write role (shown role)
  rwa [Function.update_eq_self] at hwritten

theorem Stands.uses_iff {call : SqliteFile → Except PyExn Unit → SqliteFile → Prop}
    {r : Except PyExn Unit} (h : Stands directory vaultKey auditKey shown files) :
    files.Uses (role.path directory) call r files' ↔
      ∃ file, call (shown role) r file ∧ files' = files.write (role.path directory) file := by
  rw [FileSystem.Uses, h.database role]

/-- A call of an adapter changes only its own database. -/
theorem Stands.uses {call : SqliteFile → Except PyExn Unit → SqliteFile → Prop}
    {r : Except PyExn Unit} (h : Stands directory vaultKey auditKey shown files) (role : Role)
    (huses : files.Uses (role.path directory) call r files') : ∃ file, call (shown role) r file ∧
      Stands directory vaultKey auditKey (Function.update shown role file) files' := by
  obtain ⟨file, hcall, rfl⟩ := h.uses_iff.mp huses
  exact ⟨file, hcall, h.write role file⟩

/-- A call of an adapter that can only end in one way. -/
theorem Stands.answers {file : SqliteFile}
    {call : SqliteFile → Except PyExn Unit → SqliteFile → Prop}
    (h : Stands directory vaultKey auditKey shown files) (role : Role)
    (hcall : ∀ r file', call (shown role) r file' ↔ r = .ok () ∧ file' = file)
    (r : Except PyExn Unit) (files' : FileSystem) :
    files.Uses (role.path directory) call r files' ↔
      r = .ok () ∧ files' = files.write (role.path directory) file := by
  simp only [h.uses_iff, hcall]
  constructor
  · intro huses
    obtain ⟨_, ⟨hr, rfl⟩, hfiles⟩ := huses
    exact ⟨hr, hfiles⟩
  · intro huses
    exact ⟨file, ⟨huses.1, rfl⟩, huses.2⟩

end Directory

end PamMvp.RuntimeFiles
