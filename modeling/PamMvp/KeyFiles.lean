import PamMvp.TotalPrograms
import PamMvp.DomainModel

/-!
# Reading a key file

`get_key` opens a file without following a link, checks what it is and who may read it,
and reads one byte more than a key has. The system may answer a read with fewer bytes
than were asked for; the loop goes on until it has them or the file ends.
-/
namespace PamMvp.KeyFiles
open InteractionPrograms SharedPrograms TotalPrograms PythonText DomainModel

def enoent : ℕ := 2

def eloop : ℕ := 40

/-- An `OSError` carries its `errno`; `FileNotFoundError` is the one with `ENOENT`. -/
inductive FileExn where
  | osError (errno : ℕ)
  | other (e : PyExn)
  deriving DecidableEq

inductive FileCall where
  | openKey (path : PyStr)
  | fstat (fd : ℕ)
  | read (fd count : ℕ)
  | close (fd : ℕ)

/-- `os.read` never returns more than was asked for; `os.fstat` answers with `st_mode`. -/
abbrev FileCall.Answer : FileCall → Type
  | .openKey _ => ℕ
  | .fstat _ => ℕ
  | .read _ count => {chunk : Bytes // chunk.length ≤ count}
  | .close _ => Unit

abbrev fileSignature : Signature := ⟨FileCall, FileCall.Answer, FileExn⟩

abbrev Files (α : Type) : Type := Prog fileSignature Unit α

def ask (c : FileCall) : Files c.Answer := Prog.perform (S := fileSignature) c

def throw {α : Type} (e : FileExn) : Files α := Prog.raise (S := fileSignature) e

def keyProviderError (message : String) : FileExn :=
  .other (raised .keyProviderError (py message))

/-- `stat.S_ISREG`. -/
def isRegular (mode : ℕ) : Bool := mode &&& 0o170000 == 0o100000

/-- `stat.S_ISDIR`. -/
def isDirectory (mode : ℕ) : Bool := mode &&& 0o170000 == 0o040000

/-- `stat.S_IMODE`. -/
def permissions (mode : ℕ) : ℕ := mode &&& 0o7777

/-- The `except` clauses of `get_key`. -/
def translate : FileExn → FileExn
  | .osError errno =>
    if errno = enoent then keyProviderError "master key file does not exist"
    else if errno = eloop then keyProviderError "master key path must identify a regular file"
    else keyProviderError "master key file could not be read"
  | .other e =>
    if e.cls ∈ [ExnClass.typeError, .valueError, .unicodeEncodeError, .unicodeDecodeError] then
      keyProviderError "master key file could not be read"
    else .other e

structure FileKeyProvider where
  keyFile : PyStr

namespace FileKeyProvider

def keySize : ℕ := 32

/-- `S_IRWXG | S_IRWXO`. -/
def forbiddenPermissionBits : ℕ := 0o077

/-- The `while` loop of `_read_key`. Every turn takes at least one byte off `remaining`. -/
def readLoop (fd remaining : ℕ) (chunks : List Bytes) : Files Bytes :=
  if remaining = 0 then return chunks.flatten
  else do
    let chunk ← ask (.read fd remaining)
    if chunk.val = [] then return chunks.flatten
    else readLoop fd (remaining - chunk.val.length) (chunks ++ [chunk.val])
termination_by remaining
decreasing_by
  rename_i _ hchunk
  have hpositive := List.length_pos_iff.mpr hchunk
  omega

/-- `_read_key`. -/
def readKey (descriptor : ℕ) : Files Bytes := readLoop descriptor (keySize + 1) []

/-- The `try` body of `get_key` after the file is open. -/
def readChecked (descriptor : ℕ) : Files Bytes := do
  let stMode ← ask (.fstat descriptor)
  if isRegular stMode then
    if permissions stMode &&& forbiddenPermissionBits ≠ 0 then
      throw (keyProviderError "master key file permissions are too broad")
    else readKey descriptor
  else throw (keyProviderError "master key path must identify a regular file")

/-- The `finally` clause; an error of `os.close` is dropped. -/
def closeQuietly (descriptor : ℕ) : Files Unit :=
  (ask (.close descriptor)).tryExcept fun
    | .osError _ => return ()
    | e => throw e

/-- Nothing is closed when `os.open` fails, so the two halves of the `try` body stand
under the same handlers one after the other. -/
def getKey (self : FileKeyProvider) : Files Bytes := do
  let descriptor ← (ask (.openKey self.keyFile)).tryExcept fun e => throw (translate e)
  let key ← ((readChecked descriptor).tryExcept fun e => throw (translate e)).tryFinally
    (closeQuietly descriptor)
  if key.length ≠ keySize then
    throw (keyProviderError "master key must be exactly 32 bytes")
  else return key

end FileKeyProvider

/-- An open regular file: what it holds, its mode, how far it was read and how often. -/
structure KeyFile where
  content : Bytes
  mode : ℕ
  position : ℕ
  reads : ℕ

namespace KeyFile

/-- The bytes after the position. -/
def rest (file : KeyFile) : Bytes := file.content.drop file.position

def advanced (file : KeyFile) (count : ℕ) : KeyFile :=
  { file with position := file.position + count, reads := file.reads + 1 }

/-- A read returns some prefix of the bytes that are left, which is empty only at the end
of the file. Closing may fail. -/
def Serves : Server fileSignature KeyFile := fun file call => match call with
  | .openKey _ => fun reply file' => (∃ fd, reply = .ok fd) ∧ file' = { file with position := 0 }
  | .fstat _ => fun reply file' => reply = .ok file.mode ∧ file' = file
  | .read _ count => fun reply file' => ∃ chunk : {chunk : Bytes // chunk.length ≤ count},
      reply = .ok chunk ∧ chunk.val <+: file.rest ∧
      (chunk.val = [] ↔ file.rest = [] ∨ count = 0) ∧ file' = file.advanced chunk.val.length
  | .close _ => fun reply file' =>
      (reply = .ok () ∨ ∃ errno, reply = .error (.osError errno)) ∧ file' = file

@[simp] theorem rest_advanced (file : KeyFile) (count : ℕ) :
    (file.advanced count).rest = file.rest.drop count := by
  simp [rest, advanced]

@[simp] theorem content_advanced (file : KeyFile) (count : ℕ) :
    (file.advanced count).content = file.content :=
  rfl

@[simp] theorem reads_advanced (file : KeyFile) (count : ℕ) :
    (file.advanced count).reads = file.reads + 1 :=
  rfl

end KeyFile

section Reading

variable {file : KeyFile}

/-- Some answer is always possible: the next byte, or nothing at the end of the file. -/
theorem read_answered (fd : ℕ) {count : ℕ} (hcount : count ≠ 0) :
    ∃ reply file', file.Serves (.read fd count) reply file' := by
  have hlength : (file.rest.take 1).length ≤ count := by
    rw [List.length_take]
    omega
  refine ⟨.ok ⟨file.rest.take 1, hlength⟩, _, _, rfl, List.take_prefix 1 _, ?_, rfl⟩
  simp [hcount]

/-- A chunk and what is read after it are what one full read would have returned. -/
theorem prefix_append_take {chunk rest : Bytes} {remaining : ℕ} (hchunk : chunk <+: rest)
    (hlength : chunk.length ≤ remaining) :
    chunk ++ (rest.drop chunk.length).take (remaining - chunk.length) = rest.take remaining := by
  obtain ⟨tail, rfl⟩ := hchunk
  rw [List.drop_left, List.take_append, List.take_of_length_le hlength]

theorem closeQuietly_total (fd : ℕ) :
    TotalOn KeyFile.Serves (fun o file' => o = .ret () ∧ file' = file)
      (FileKeyProvider.closeQuietly fd) file := by
  have hclose : TotalOn KeyFile.Serves
      (fun o file' => file' = file ∧ (o = .ret () ∨ ∃ errno, o = .raise (.osError errno)))
      (ask (.close fd)) file := by
    refine totalOn_perform ⟨.ok (), file, .inl rfl, rfl⟩ (fun a file' h => ⟨h.2, .inl rfl⟩) ?_
    intro e file' hserve
    obtain ⟨hreply | ⟨errno, hreply⟩, rfl⟩ := hserve
    · cases hreply
    · cases hreply
      exact ⟨rfl, .inr ⟨errno, rfl⟩⟩
  refine hclose.tryExcept (fun a file' h => ⟨rfl, h.1⟩) fun e file' h => ?_
  obtain ⟨rfl, hret | ⟨errno, hraise⟩⟩ := h
  · cases hret
  · cases hraise
    exact ⟨rfl, rfl⟩

theorem readLoop_total (fd remaining : ℕ) (chunks : List Bytes) :
    TotalOn KeyFile.Serves (fun o file' => o = .ret (chunks.flatten ++ file.rest.take remaining) ∧
        file'.reads ≤ file.reads + remaining)
      (FileKeyProvider.readLoop fd remaining chunks) file := by
  induction remaining using Nat.strong_induction_on generalizing chunks file with
  | h remaining ih =>
    rw [FileKeyProvider.readLoop]
    by_cases hremaining : remaining = 0
    · rw [if_pos hremaining, hremaining]
      exact ⟨by simp, Nat.le_refl _⟩
    · rw [if_neg hremaining]
      refine ⟨read_answered fd hremaining, fun reply file' hserve => ?_⟩
      obtain ⟨⟨chunk, hlength⟩, rfl, hprefix, hempty, rfl⟩ := hserve
      change TotalOn _ _ (if chunk = [] then _ else _) _
      by_cases hchunk : chunk = []
      · have hrest : file.rest = [] := (hempty.mp hchunk).resolve_right hremaining
        rw [if_pos hchunk]
        refine ⟨by simp [hrest], ?_⟩
        rw [KeyFile.reads_advanced]
        omega
      · rw [if_neg hchunk]
        have hpositive := List.length_pos_iff.mpr hchunk
        refine (ih (remaining - chunk.length) (by omega) _).mono fun o file' h => ?_
        obtain ⟨rfl, hreads⟩ := h
        constructor
        · rw [KeyFile.rest_advanced, List.flatten_append, List.flatten_singleton,
            List.append_assoc, prefix_append_take hprefix hlength]
        · rw [KeyFile.reads_advanced] at hreads
          omega

variable (file) in
theorem readKey_total (fd : ℕ) (hposition : file.position = 0) :
    TotalOn KeyFile.Serves (fun o file' => o = .ret (file.content.take 33) ∧
        file'.reads ≤ file.reads + 33)
      (FileKeyProvider.readKey fd) file := by
  have hrest : file.rest = file.content := by simp [KeyFile.rest, hposition]
  refine (readLoop_total fd 33 []).mono fun o file' h => ?_
  rw [hrest] at h
  exact h

variable (file) in
theorem readChecked_total (fd : ℕ) (hregular : isRegular file.mode = true)
    (howner : permissions file.mode &&& FileKeyProvider.forbiddenPermissionBits = 0)
    (hposition : file.position = 0) :
    TotalOn KeyFile.Serves (fun o _ => o = .ret (file.content.take 33))
      (FileKeyProvider.readChecked fd) file := by
  refine ⟨⟨_, file, rfl, rfl⟩, fun reply file' hserve => ?_⟩
  obtain ⟨rfl, rfl⟩ := hserve
  change TotalOn _ _ (if isRegular file'.mode then _ else _) _
  rw [if_pos hregular, if_neg (not_not_intro howner)]
  exact (readKey_total file' fd hposition).mono fun o _ h => h.1

variable (file) in
theorem readChecked_refused (fd : ℕ) (hregular : isRegular file.mode = true)
    (hbroad : permissions file.mode &&& FileKeyProvider.forbiddenPermissionBits ≠ 0) :
    TotalOn KeyFile.Serves
      (fun o _ => o = .raise (keyProviderError "master key file permissions are too broad"))
      (FileKeyProvider.readChecked fd) file := by
  refine ⟨⟨_, file, rfl, rfl⟩, fun reply file' hserve => ?_⟩
  obtain ⟨rfl, rfl⟩ := hserve
  change TotalOn _ _ (if isRegular file'.mode then _ else _) _
  rw [if_pos hregular, if_pos hbroad]
  rfl

/-- The 33rd byte tells a key from a longer file. -/
theorem take_length_eq_iff (content : Bytes) :
    (content.take 33).length = FileKeyProvider.keySize ↔ content.length = 32 := by
  rw [List.length_take, FileKeyProvider.keySize]
  omega

/-- What `get_key` makes of the outcome of its `try` body. -/
def FileKeyProvider.keyOutcome : Outcome fileSignature Bytes → Outcome fileSignature Bytes
  | .ret key =>
    if key.length ≠ keySize then .raise (keyProviderError "master key must be exactly 32 bytes")
    else .ret key
  | .raise e => .raise (translate e)

/-- The file is opened and closed around a `try` body with one outcome. -/
theorem getKey_total (provider : FileKeyProvider) (fd : ℕ) {o : Outcome fileSignature Bytes}
    (hbody : ∀ descriptor, TotalOn KeyFile.Serves (fun o' _ => o' = o)
      (FileKeyProvider.readChecked descriptor) { file with position := 0 }) :
    TotalOn KeyFile.Serves (fun o' _ => o' = FileKeyProvider.keyOutcome o)
      provider.getKey file := by
  have hopen : TotalOn KeyFile.Serves (fun o' file' => (∃ descriptor, o' = .ret descriptor) ∧
      file' = { file with position := 0 })
      ((ask (.openKey provider.keyFile)).tryExcept fun e => throw (translate e)) file := by
    refine ⟨⟨.ok fd, _, ⟨fd, rfl⟩, rfl⟩, fun reply file' hserve => ?_⟩
    obtain ⟨⟨descriptor, rfl⟩, rfl⟩ := hserve
    exact ⟨⟨descriptor, rfl⟩, rfl⟩
  have hclosed (descriptor : ℕ) : TotalOn KeyFile.Serves (fun o' _ => o' = match o with
        | .ret key => .ret key
        | .raise e => .raise (translate e))
      (((FileKeyProvider.readChecked descriptor).tryExcept fun e => throw (translate e)).tryFinally
        (FileKeyProvider.closeQuietly descriptor)) { file with position := 0 } := by
    have hread := (hbody descriptor).tryExcept (h := fun e => throw (translate e))
      (Q := fun o' _ => o' = match o with
        | .ret key => .ret key
        | .raise e => .raise (translate e))
      (fun key _ hret => by rw [← hret]) fun e _ hraise => by rw [← hraise]; rfl
    refine hread.tryFinally fun o' file' ho => ?_
    refine (closeQuietly_total descriptor).mono fun o'' file'' h => ?_
    obtain ⟨rfl, rfl⟩ := h
    exact ho
  refine hopen.bind (fun descriptor file' h => ?_) fun e file' h => ?_
  · obtain ⟨-, rfl⟩ := h
    refine (hclosed descriptor).bind (fun key file' hkey => ?_) fun e file' he => ?_
    · cases o with
      | ret key' =>
        cases hkey
        simp only [FileKeyProvider.keyOutcome]
        split_ifs <;> rfl
      | raise e => cases hkey
    · cases o with
      | ret key => cases he
      | raise e' => exact he
  · obtain ⟨⟨descriptor, hret⟩, -⟩ := h
    cases hret

end Reading

/-- However the reads are cut up, `_read_key` ends after at most 33 of them with the first
33 bytes, and `get_key` returns the content exactly when it has 32 bytes. -/
theorem getKey_exact (provider : FileKeyProvider) (fd : ℕ) (file : KeyFile)
    (hregular : isRegular file.mode = true)
    (howner : permissions file.mode &&& FileKeyProvider.forbiddenPermissionBits = 0) :
    TotalOn KeyFile.Serves (fun o file' => o = .ret (file.content.take 33) ∧
        file'.reads ≤ file.reads + 33)
      (FileKeyProvider.readKey fd) { file with position := 0 } ∧
    TotalOn KeyFile.Serves (fun o _ =>
        (file.content.length = 32 → o = .ret file.content) ∧
        (file.content.length ≠ 32 →
          o = .raise (keyProviderError "master key must be exactly 32 bytes")))
      provider.getKey file := by
  refine ⟨readKey_total { file with position := 0 } fd rfl, ?_⟩
  have hbody (descriptor : ℕ) := readChecked_total { file with position := 0 } descriptor hregular
    howner rfl
  refine (getKey_total provider fd hbody).mono fun o _ ho => ?_
  rw [ho, FileKeyProvider.keyOutcome]
  by_cases hlength : file.content.length = 32
  · rw [if_neg (not_not_intro ((take_length_eq_iff _).mpr hlength))]
    have hle : file.content.length ≤ 33 := by omega
    exact ⟨fun _ => congrArg Outcome.ret (List.take_of_length_le hle),
      fun hne => absurd hlength hne⟩
  · rw [if_pos (mt (take_length_eq_iff _).mp hlength)]
    exact ⟨fun heq => absurd heq hlength, fun _ => rfl⟩

theorem getKey_exact_owner_key :
    TotalOn KeyFile.Serves (fun o file' => o = .ret (List.replicate 32 7) ∧ file'.reads ≤ 33)
      (FileKeyProvider.readKey 3) ⟨List.replicate 32 7, 0o100600, 0, 0⟩ ∧
    TotalOn KeyFile.Serves (fun o _ => o = .ret (List.replicate 32 7))
      (FileKeyProvider.getKey ⟨py "master.key"⟩) ⟨List.replicate 32 7, 0o100600, 0, 0⟩ := by
  obtain ⟨hread, hget⟩ := getKey_exact ⟨py "master.key"⟩ 3
    ⟨List.replicate 32 7, 0o100600, 0, 0⟩ (by decide) (by decide)
  exact ⟨hread, hget.mono fun _ _ h => h.1 rfl⟩

end PamMvp.KeyFiles
