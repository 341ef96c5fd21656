import PamMvp.AuditOpening
import PamMvp.PreservingPrograms
import PamMvp.ProvisionedAccess
import PamMvp.RecordedChains

/-!
# The verification tool

`verify_audit` looks at the audit database and its key, opens the repository and verifies
the chain. Whatever fails on the way, the tool ends with one line and an exit code, and it
reports success only for a file whose rows are a chain under the key. For the file that the
access service leaves behind it does.
-/
namespace PamMvp.VerificationTool
open InteractionPrograms SharedPrograms ServedPrograms TotalPrograms ReturningPrograms
  PreservingPrograms PythonText DomainModel SqliteValues TableConstraints AdapterSchemas
  EnforcedUniqueness CreatedTables AuditEncoding AuditRepository AuditDatabase AuditVerification
  RecordedChains RuntimeConfiguration RuntimeFiles LabProvisioning ApplicationStartup
  ProvisionedAccess PamCalls WiredAccess ServedAccess

section Tool

inductive ToolCall where
  | isFile (path : RuntimePath)
  | size (path : RuntimePath)
  | openAudit (path keyPath : RuntimePath)
  | verifyIntegrity (path keyPath : RuntimePath)
  | print (line : PyStr)

abbrev ToolCall.Answer : ToolCall → Type
  | .isFile _ => Bool
  | .size _ => ℕ
  | _ => Unit

abbrev toolSignature : Signature := ⟨ToolCall, ToolCall.Answer, PyExn⟩

abbrev Tool (α : Type) : Type := Prog toolSignature Unit α

def ask (c : ToolCall) : Tool c.Answer := Prog.perform (S := toolSignature) c

def throw {α : Type} (e : PyExn) : Tool α := Prog.raise (S := toolSignature) e

def auditPath (runtimeDir : PyStr) : RuntimePath := ⟨runtimeDir, py "audit.db"⟩

/-- `not path.is_file() or path.stat().st_size == 0`. -/
def isMissing (path : RuntimePath) : Tool Bool := do
  if ← ask (.isFile path) then
    let size ← ask (.size path)
    return size = 0
  else return true

/-- The `try` body of `main`. -/
def checkAudit (runtimeDir : PyStr) : Tool Unit := do
  let auditDatabase := auditPath runtimeDir
  let auditKey := auditKeyPath runtimeDir
  if ← isMissing auditDatabase then throw (raised .valueError [])
  else if ← isMissing auditKey then throw (raised .valueError [])
  else
    ask (.openAudit auditDatabase auditKey)
    ask (.verifyIntegrity auditDatabase auditKey)

def ok : PyStr := py "Audit integrity: OK"

def failed : PyStr := py "Audit integrity: FAILED"

/-- `main`, after the arguments were parsed; the value is the exit code. -/
def main (runtimeDir : PyStr) : Tool ℕ := do
  let verified ← Prog.tryExcept (do
    checkAudit runtimeDir
    return true) fun e => if e.isException then return false else throw e
  if verified then
    ask (.print ok)
    return 0
  else
    ask (.print failed)
    return 1

end Tool

section Server

/-- The files, and the lines that were printed. -/
structure ToolState where
  files : FileSystem
  printed : List PyStr

/-- `Path.is_file`; a link may lead anywhere. -/
def IsFile : Node → Bool → Prop
  | .regular _ _, found => found = true
  | .link _, _ => True
  | _, found => found = false

/-- `st_size`. A file that SQLite has written to is not empty. -/
def Size : Node → ℕ → Prop
  | .regular _ (.bytes data), n => n = data.length
  | .regular _ (.sqlite _), n => 0 < n
  | _, _ => True

/-- The answers when nothing fails. SQLite creates a missing file. -/
def Answers (env : Environment) : Server toolSignature ToolState
  | s, .isFile path, r, s' => (∃ found, r = .ok found ∧ IsFile (s.files.node path) found) ∧ s' = s
  | s, .size path, r, s' => (∃ n, r = .ok n ∧ Size (s.files.node path) n) ∧ s' = s
  | s, .openAudit path keyPath, r, s' => ∃ files',
    RuntimeFiles.Answers env s.files (.openAudit path keyPath) r files' ∧
      s' = { s with files := files' }
  | s, .verifyIntegrity path keyPath, r, s' =>
    (match (s.files.node keyPath).key, (s.files.node path).database? with
      | .ok key, some file => Verifies (.bytes key) file.database r
      | _, _ => ∃ e, r = .error e) ∧
    s'.printed = s.printed ∧ (s.files.node path ≠ .absent → s' = s)
  | s, .print line, r, s' => r = .ok () ∧ s' = { s with printed := s.printed ++ [line] }

/-- A call that fails may leave any files behind. -/
def Serves (env : Environment) : Server toolSignature ToolState := fun s c r s' =>
  Answers env s c r s' ∨ ∃ e, r = .error e ∧ s'.printed = s.printed

/-- The database has a chain under the key, or no audit table yet. -/
def Consistent (key : Bytes) (db : Database) : Prop :=
  (∃ t, db.table? Audit.tableName = some t ∧ Audit.accepts db.userVersion t.schema ∧
    Genuine key (ordered (t.rows.map (auditRow Audit.schemaColumns)))) ∨
  db.hasTable Audit.tableName = false ∧ db.userVersion = 0

/-- What the tool reports as sound. -/
def Sound (runtimeDir : PyStr) (files : FileSystem) : Prop :=
  ∃ key permissions file, (files.node (auditKeyPath runtimeDir)).key = .ok key ∧
    files.node (auditPath runtimeDir) = .regular permissions (.sqlite file) ∧
    Consistent key file.database

end Server

section Soundness

variable {env : Environment} {runtimeDir : PyStr} {files : FileSystem}

/-- A call that succeeds is answered as if nothing failed. -/
theorem serves_ok {s s' : ToolState} {c : ToolCall} {a : c.Answer}
    (h : Serves env s c (.ok a) s') : Answers env s c (.ok a) s' := by
  rcases h with h | ⟨e, he, -⟩
  · exact h
  · cases he

theorem returns_ask {s : ToolState} {c : ToolCall} {Q : c.Answer → ToolState → Prop}
    (h : ∀ a s', Answers env s c (.ok a) s' → Q a s') : Returns (Serves env) (ask c) s Q :=
  returns_perform fun a s' hserve => h a s' (serves_ok hserve)

/-- A regular file with something in it, or a link. -/
def Present : Node → Prop
  | .regular _ content => content ≠ .bytes []
  | .link _ => True
  | _ => False

theorem present_of_size {node : Node} {n : ℕ} (hfile : IsFile node true) (hsize : Size node n)
    (hn : n ≠ 0) : Present node := by
  cases node with
  | regular permissions content =>
    intro hcontent
    rw [hcontent] at hsize
    exact hn hsize
  | link target => trivial
  | _ => cases hfile

theorem regular_of_present {node : Node} {file : SqliteFile} (h : Present node)
    (hdatabase : node.database? = some file) :
    ∃ permissions, node = .regular permissions (.sqlite file) := by
  cases node with
  | regular permissions content =>
    cases content with
    | bytes data =>
      cases data with
      | nil => exact absurd rfl h
      | cons b data => cases hdatabase
    | sqlite file' =>
      cases hdatabase
      exact ⟨permissions, rfl⟩
  | link target => cases hdatabase
  | _ => exact h.elim

theorem isMissing_returns (path : RuntimePath) (s : ToolState) :
    Returns (Serves env) (isMissing path) s fun missing s' =>
      s' = s ∧ (missing = false → Present (s.files.node path)) := by
  refine Returns.bind (P := fun found s' => IsFile (s.files.node path) found ∧ s' = s) ?_ ?_
  · refine returns_ask fun found s' h => ?_
    obtain ⟨⟨_, hfound, hfile⟩, hsame⟩ := h
    cases hfound
    exact ⟨hfile, hsame⟩
  · intro found s' h
    obtain ⟨hfile, rfl⟩ := h
    cases found with
    | false => exact returns_pure ⟨rfl, fun hmissing => by cases hmissing⟩
    | true =>
      refine Returns.bind (P := fun n s'' => Size (s'.files.node path) n ∧ s'' = s') ?_ ?_
      · refine returns_ask fun n s'' h => ?_
        obtain ⟨⟨_, hn, hsize⟩, hsame⟩ := h
        cases hn
        exact ⟨hsize, hsame⟩
      · intro n s'' h
        obtain ⟨hsize, rfl⟩ := h
        refine returns_pure ⟨rfl, fun hmissing => ?_⟩
        exact present_of_size hfile hsize (by simpa using hmissing)

/-- A constructor that returns and a verification that returns after it have found a chain. -/
theorem sound_of_answers {s s₁ s' : ToolState}
    (hpresent : Present (s.files.node (auditPath runtimeDir)))
    (hopen : Answers env s (.openAudit (auditPath runtimeDir) (auditKeyPath runtimeDir))
      (.ok ()) s₁)
    (hverify : Answers env s₁ (.verifyIntegrity (auditPath runtimeDir) (auditKeyPath runtimeDir))
      (.ok ()) s') : Sound runtimeDir s.files := by
  obtain ⟨files', hopen, rfl⟩ := hopen
  have hdistinct : auditKeyPath runtimeDir ≠ auditPath runtimeDir := path_ne (by decide)
  cases hkey : (s.files.node (auditKeyPath runtimeDir)).key with
  | error e =>
    simp only [RuntimeFiles.Answers, hkey] at hopen
    obtain ⟨⟨_, he⟩, -⟩ := hopen
    cases he
  | ok key =>
    simp only [RuntimeFiles.Answers, hkey, FileSystem.Uses] at hopen
    have hlength := (key_regular hkey).2
    cases hdatabase : (s.files.node (auditPath runtimeDir)).database? with
    | none =>
      rw [hdatabase] at hopen
      obtain ⟨⟨_, he⟩, -⟩ := hopen
      cases he
    | some file =>
      rw [hdatabase] at hopen
      obtain ⟨file', hconstructs, rfl⟩ := hopen
      obtain ⟨permissions, hnode⟩ := regular_of_present hpresent hdatabase
      refine ⟨key, permissions, file, hkey, hnode, ?_⟩
      obtain ⟨o, db', hchecked, hiff⟩ := AuditOpening.constructs_audit hlength file
      have hended := (hiff _ _).mp hconstructs
      cases hchecked with
      | accepted htable haccepts =>
        obtain ⟨-, rfl⟩ := hended
        left
        refine ⟨_, htable, haccepts, ?_⟩
        have hshown := hverify.1
        simp only [FileSystem.write, FileSystem.node_put_self,
          s.files.node_put_of_ne _ hdistinct, hkey, Node.database?, Content.sqlite?] at hshown
        rw [verifies_iff hlength] at hshown
        exact (verdict_ok_iff htable haccepts.2).mp hshown.symm
      | created hnone hversion => exact .inr ⟨hnone, hversion⟩
      | refused => cases hended.1

theorem checkAudit_returns (s : ToolState) :
    Returns (Serves env) (checkAudit runtimeDir) s fun _ _ => Sound runtimeDir s.files := by
  refine (isMissing_returns (auditPath runtimeDir) s).bind fun missing s' h => ?_
  obtain ⟨rfl, hdatabase⟩ := h
  split_ifs with hmissing
  · exact returns_raise _ _
  have hpresent := hdatabase (by simpa using hmissing)
  refine (isMissing_returns (auditKeyPath runtimeDir) s').bind fun missing s'' h => ?_
  obtain ⟨rfl, -⟩ := h
  split_ifs
  · exact returns_raise _ _
  refine (returns_ask fun _ _ hopen => hopen).bind fun _ s₁ hopen => ?_
  refine returns_ask fun _ s₂ hverify => ?_
  exact sound_of_answers hpresent hopen hverify

end Soundness

section Printing

variable {env : Environment} {runtimeDir : PyStr}

def SamePrinted (s s' : ToolState) : Prop := s'.printed = s.printed

instance : IsPreorder ToolState SamePrinted where
  refl _ := rfl
  trans _ _ _ h h' := Eq.trans h' h

/-- Only `print` prints. -/
theorem ask_prints {c : ToolCall} (hc : ∀ line, c ≠ .print line) :
    Preserves (Serves env) SamePrinted (ask c) := by
  apply preserves_perform
  intro s r s' h
  rcases h with h | ⟨e, -, hprinted⟩
  · cases c with
    | isFile path => exact congrArg ToolState.printed h.2
    | size path => exact congrArg ToolState.printed h.2
    | openAudit path keyPath =>
      obtain ⟨files', -, rfl⟩ := h
      rfl
    | verifyIntegrity path keyPath => exact h.2.1
    | print line => exact absurd rfl (hc line)
  · exact hprinted

theorem isMissing_prints (path : RuntimePath) :
    Preserves (Serves env) SamePrinted (isMissing path) := by
  apply (ask_prints (by simp)).bind
  intro found
  cases found with
  | false => exact preserves_pure true
  | true => exact (ask_prints (by simp)).bind fun n => preserves_pure _

theorem checkAudit_prints : Preserves (Serves env) SamePrinted (checkAudit runtimeDir) := by
  apply (isMissing_prints _).bind
  intro missing
  split_ifs
  · exact preserves_raise _
  apply (isMissing_prints _).bind
  intro missing
  split_ifs
  · exact preserves_raise _
  · exact (ask_prints (by simp)).bind fun _ => ask_prints (by simp)

end Printing

section Completeness

variable {env : Environment} {runtimeDir : PyStr} {key : Bytes}

/-- A consistent file is opened in one way, and what was opened is verified. -/
theorem opened_of_consistent {file : SqliteFile} (hkey : key.length = macSize)
    (h : Consistent key file.database) : ∃ file' : SqliteFile,
      (∀ r f, Constructs .audit (.bytes key) file r f ↔ r = .ok () ∧ f = file') ∧
        verdict key file'.database = .ok () := by
  obtain ⟨o, db', hchecked, hiff⟩ := AuditOpening.constructs_audit hkey file
  cases hchecked with
  | accepted htable haccepts =>
    refine ⟨file, hiff, (verdict_ok_iff htable haccepts.2).mpr ?_⟩
    rcases h with ⟨t, htable', -, hgenuine⟩ | ⟨hnone, -⟩
    · rw [htable] at htable'
      cases htable'
      exact hgenuine
    · rw [AuditOpening.hasTable_of_table htable] at hnone
      cases hnone
  | created hnone hversion =>
    refine ⟨_, hiff, ?_⟩
    have htable : file.database.table? Audit.created.name = none := by
      rw [Option.eq_none_iff_forall_ne_some]
      intro t ht
      rw [← Bool.not_eq_true] at hnone
      exact hnone (AuditOpening.hasTable_of_table ht)
    rw [verdict_ok_iff (table?_createdIn _ htable) (created_columnNames .audit)]
    exact ⟨[], rfl, by simp, trivial⟩
  | refused hexception hnot =>
    refine absurd ?_ hnot
    rcases h with ⟨t, htable, haccepts, -⟩ | hcreated
    · exact .inl ⟨t, htable, haccepts⟩
    · exact .inr hcreated

theorem isMissing_total {path : RuntimePath} {s : ToolState} {permissions : ℕ} {content : Content}
    (hnode : s.files.node path = .regular permissions content) (hcontent : content ≠ .bytes []) :
    TotalOn (Answers env) (fun o s' => o = .ret false ∧ s' = s) (isMissing path) s := by
  have hfile : ∀ r s', Answers env s (.isFile path) r s' ↔ r = .ok true ∧ s' = s := by
    intro r s'
    simp only [Answers, hnode, IsFile]
    simp
  refine totalOn_answered_bind hfile ?_
  have hsize : TotalOn (Answers env) (fun o s' => s' = s ∧ ∃ n, o = .ret n ∧ n ≠ 0)
      (ask (.size path)) s := by
    have hpositive : ∀ n, Size (s.files.node path) n → n ≠ 0 := by
      intro n hn hzero
      rw [hnode, hzero] at hn
      cases content with
      | bytes data => exact hcontent (congrArg _ (List.length_eq_zero_iff.mp hn.symm))
      | sqlite file => exact lt_irrefl 0 hn
    have hexists : ∃ n, Size (s.files.node path) n := by
      rw [hnode]
      cases content with
      | bytes data => exact ⟨data.length, rfl⟩
      | sqlite file => exact ⟨1, Nat.one_pos⟩
    obtain ⟨n, hn⟩ := hexists
    refine totalOn_perform ⟨.ok n, s, ⟨n, rfl, hn⟩, rfl⟩ ?_ ?_
    · intro n s' hanswer
      obtain ⟨⟨_, hret, hn⟩, rfl⟩ := hanswer
      cases hret
      exact ⟨rfl, n, rfl, hpositive n hn⟩
    · intro e s' hanswer
      obtain ⟨⟨_, hret, -⟩, -⟩ := hanswer
      cases hret
  refine hsize.bind (fun n s' h => ?_) fun e s' h => ?_
  · obtain ⟨rfl, _, hret, hn⟩ := h
    cases hret
    exact ⟨congrArg Outcome.ret (decide_eq_false hn), rfl⟩
  · obtain ⟨-, _, hret, -⟩ := h
    cases hret

theorem checkAudit_total {s : ToolState} (h : Sound runtimeDir s.files) :
    TotalOn (Answers env) (fun o s' => o = .ret () ∧ s'.printed = s.printed)
      (checkAudit runtimeDir) s := by
  obtain ⟨key, permissions, file, hkey, hnode, hconsistent⟩ := h
  obtain ⟨⟨keyPermissions, content, hkeyNode⟩, hlength⟩ := key_regular hkey
  have hkeyContent : content ≠ .bytes [] := by
    intro hcontent
    rw [hkeyNode, hcontent] at hkey
    simp only [Node.key] at hkey
    split_ifs at hkey with hbroad hsize
    cases hsize
  obtain ⟨file', hiff, hverdict⟩ := opened_of_consistent hlength hconsistent
  have hdistinct : auditKeyPath runtimeDir ≠ auditPath runtimeDir := path_ne (by decide)
  refine (isMissing_total hnode (by simp)).bind (fun missing s' hret => ?_) fun e s' hraise => ?_
  · obtain ⟨hmissing, rfl⟩ := hret
    cases hmissing
    refine (isMissing_total hkeyNode hkeyContent).bind (fun missing s' hret => ?_)
      fun e s' hraise => ?_
    · obtain ⟨hmissing, rfl⟩ := hret
      cases hmissing
      have hopen : ∀ r s₁, Answers env s' (.openAudit (auditPath runtimeDir)
          (auditKeyPath runtimeDir)) r s₁ ↔
            r = .ok () ∧ s₁ = { s' with files := s'.files.write (auditPath runtimeDir) file' } := by
        intro r s₁
        simp only [Answers, RuntimeFiles.Answers, hkey, FileSystem.Uses, hnode, Node.database?,
          Content.sqlite?, hiff]
        constructor
        · rintro ⟨_, ⟨_, ⟨hr, rfl⟩, rfl⟩, rfl⟩
          exact ⟨hr, rfl⟩
        · rintro ⟨hr, rfl⟩
          exact ⟨_, ⟨_, ⟨hr, rfl⟩, rfl⟩, rfl⟩
      refine totalOn_answered_bind hopen ?_
      have hverify : ∀ r s₁, Answers env
          { s' with files := s'.files.write (auditPath runtimeDir) file' }
          (.verifyIntegrity (auditPath runtimeDir) (auditKeyPath runtimeDir)) r s₁ ↔
            r = .ok () ∧ s₁ = { s' with files := s'.files.write (auditPath runtimeDir) file' } := by
        intro r s₁
        simp only [Answers, FileSystem.write, FileSystem.node_put_self,
          s'.files.node_put_of_ne _ hdistinct, hkey, Node.database?, Content.sqlite?,
          verifies_iff hlength, hverdict]
        constructor
        · rintro ⟨hr, -, hsame⟩
          exact ⟨hr, hsame (by simp)⟩
        · rintro ⟨hr, rfl⟩
          exact ⟨hr, rfl, fun _ => rfl⟩
      refine totalOn_perform ⟨.ok (), _, (hverify _ _).mpr ⟨rfl, rfl⟩⟩ ?_ ?_
      · intro _ s₁ hanswer
        obtain ⟨-, rfl⟩ := (hverify _ _).mp hanswer
        exact ⟨rfl, rfl⟩
      · intro e s₁ hanswer
        cases ((hverify _ _).mp hanswer).1
    · cases hraise.1
  · cases hraise.1

end Completeness

section Exits

variable {env : Environment} {runtimeDir : PyStr} {files : FileSystem}

/-- How the tool ends when its lines can be printed. -/
def Ends (runtimeDir : PyStr) (files : FileSystem) (o : Outcome toolSignature ℕ) (s : ToolState) :
    Prop :=
  (o = .ret 0 ∧ s.printed = [ok] ∧ Sound runtimeDir files) ∨ (o = .ret 1 ∧ s.printed = [failed]) ∨
    (∃ e, o = .raise e) ∧ s.printed = []

theorem main_ensures (runtimeDir : PyStr) (files : FileSystem) :
    EnsuresOn (Serves env) (main runtimeDir) ⟨files, []⟩ (Ends runtimeDir files) := by
  have hbody : EnsuresOn (Serves env) (checkAudit runtimeDir) ⟨files, []⟩ fun o s =>
      s.printed = [] ∧ (o = .ret () → Sound runtimeDir files) := by
    intro o s hrun
    refine ⟨checkAudit_prints _ o s hrun, fun hret => ?_⟩
    subst hret
    exact checkAudit_returns _ () s hrun
  have hverified : EnsuresOn (Serves env) (Prog.tryExcept (do
      checkAudit runtimeDir
      return true) fun e => if e.isException then return false else throw e) ⟨files, []⟩
      fun o s => s.printed = [] ∧ (o = .ret true → Sound runtimeDir files) := by
    refine EnsuresOn.tryExcept (P := fun o s =>
      s.printed = [] ∧ (o = .ret true → Sound runtimeDir files)) ?_ (fun _ _ h => h) ?_
    · refine hbody.bind (fun _ s h => ?_) fun e s h => ⟨h.1, fun hret => by cases hret⟩
      exact ensuresOn_ret true ⟨h.1, fun _ => h.2 rfl⟩
    · intro e s h
      split_ifs
      · exact ensuresOn_ret false ⟨h.1, fun hret => by cases hret⟩
      · exact ensuresOn_raise (S := toolSignature) e ⟨h.1, fun hret => by cases hret⟩
  have hprint (s : ToolState) (line : PyStr) (code : ℕ) (hprinted : s.printed = []) :
      EnsuresOn (Serves env) (do
        ask (.print line)
        return code) s fun o s' => (o = .ret code ∧ s'.printed = [line]) ∨
          (∃ e, o = .raise e) ∧ s'.printed = [] := by
    refine EnsuresOn.bind (P := fun o s' => (o = .ret () ∧ s'.printed = [line]) ∨
      (∃ e, o = .raise e) ∧ s'.printed = []) ?_ ?_ ?_
    · refine ensuresOn_perform (fun _ s' hserve => .inl ⟨rfl, ?_⟩) fun e s' hserve => ?_
      · rw [(serves_ok hserve).2, hprinted]
        rfl
      · rcases hserve with hanswer | ⟨_, -, hsame⟩
        · cases hanswer.1
        · exact .inr ⟨⟨e, rfl⟩, hsame.trans hprinted⟩
    · intro _ s' h
      rcases h with ⟨-, hline⟩ | ⟨⟨_, hraise⟩, -⟩
      · exact ensuresOn_ret code (.inl ⟨rfl, hline⟩)
      · cases hraise
    · intro e s' h
      rcases h with ⟨hret, -⟩ | h
      · cases hret
      · exact .inr ⟨⟨e, rfl⟩, h.2⟩
  refine hverified.bind (fun verified s h => ?_) fun e s h => .inr (.inr ⟨⟨e, rfl⟩, h.1⟩)
  cases verified with
  | true =>
    refine (hprint s ok 0 h.1).mono fun o s' hend => ?_
    rcases hend with ⟨hret, hline⟩ | hraise
    · exact .inl ⟨hret, hline, h.2 rfl⟩
    · exact .inr (.inr hraise)
  | false =>
    refine (hprint s failed 1 h.1).mono fun o s' hend => ?_
    exact .inr hend

theorem main_total (h : Sound runtimeDir files) :
    TotalOn (Answers env) (fun o s => o = .ret 0 ∧ s.printed = [ok]) (main runtimeDir)
      ⟨files, []⟩ := by
  have hverified : TotalOn (Answers env) (fun o s => o = .ret true ∧ s.printed = [])
      (Prog.tryExcept (do
        checkAudit runtimeDir
        return true) fun e => if e.isException then return false else throw e) ⟨files, []⟩ := by
    refine TotalOn.tryExcept (P := fun o s => o = .ret true ∧ s.printed = []) ?_
      (fun _ _ h => h) fun e s hraise => by cases hraise.1
    refine (checkAudit_total (s := ⟨files, []⟩) h).bind (fun _ s hret => ?_)
      fun e s hraise => by cases hraise.1
    exact ⟨rfl, hret.2⟩
  refine hverified.bind (fun verified s hret => ?_) fun e s hraise => by cases hraise.1
  obtain ⟨hverified, hprinted⟩ := hret
  cases hverified
  have hprint : ∀ r s', Answers env s (.print ok) r s' ↔
      r = .ok () ∧ s' = { s with printed := s.printed ++ [ok] } := fun r s' => Iff.rfl
  refine totalOn_answered_bind hprint ⟨rfl, ?_⟩
  change s.printed ++ [ok] = [ok]
  rw [hprinted]
  rfl

/-- The tool reports success for sound files only, whatever fails, and for all of them when
nothing does; otherwise it reports the failure or raises without a line. -/
theorem verify_audit_exact (env : Environment) (runtimeDir : PyStr) (files : FileSystem) :
    EnsuresOn (Serves env) (main runtimeDir) ⟨files, []⟩ (Ends runtimeDir files) ∧
      (Sound runtimeDir files → TotalOn (Answers env) (fun o s => o = .ret 0 ∧ s.printed = [ok])
        (main runtimeDir) ⟨files, []⟩) :=
  ⟨main_ensures runtimeDir files, main_total⟩

end Exits

section Service

variable {env : Environment} {key : Bytes} {settings : RuntimeSettings} {seconds : PyFloat}
  {services : ApplicationServices} {files : FileSystem} {records : List ChainRecord}

/-- A chain of authentic records is sound. -/
theorem RecordedChain.sound {directory : PyStr} {permissions : ℕ} {file : SqliteFile}
    (h : RecordedChain key records file.database)
    (hkey : (files.node (auditKeyPath directory)).key = .ok key)
    (hnode : files.node (auditPath directory) = .regular permissions (.sqlite file)) :
    Sound directory files := by
  have hlength : key.length = macSize := (key_regular hkey).2
  have hgenuine := (verdict_ok_iff h.holding.table (created_columnNames .audit)).mp h.verified
  have haccepts : Audit.accepts file.database.userVersion Audit.created := by
    rw [h.holding.version]
    exact created_accepted .audit
  exact ⟨key, permissions, file, hkey, hnode, .inl ⟨_, h.holding.table, haccepts, hgenuine⟩⟩

/-- The files after the access service has answered: its calls change the audit database. -/
def servedFiles (services : ApplicationServices) (files : FileSystem) (w : AccessState) :
    FileSystem :=
  files.write services.settings.auditDbPath
    { files.sqlite services.settings.auditDbPath with database := w.audit }

/-- After the application was provisioned and started, the tool reports success at any time
between two calls of the service, whatever was requested, answered or refused. -/
theorem verified_after_service (hreliable : env.Reliable) (config : LabProvisioningConfig)
    {files' : FileSystem} {paths : LabRuntimePaths}
    (hfresh : ∀ role : Role, files.node (role.path config.runtimeDir) = .absent)
    (hrun : RunsOn (RuntimeFiles.Serves env) (provisionLab config) files (.ret paths) files')
    (hsettings : runtimeSettings config.runtimeDir seconds = .ok settings) :
    TotalOn (RuntimeFiles.Answers env) (fun o files'' => ∃ services auditKey, o = .ret services ∧
      (files''.node services.settings.auditIntegrityKeyPath).key = .ok auditKey ∧
      ∀ past w, ServedBy (ServedAccess.Answers (runtime env services files'') auditKey)
        (auditState services files'') past w →
        TotalOn (Answers env) (fun o s => o = .ret 0 ∧ s.printed = [ok])
          (main config.runtimeDir) ⟨servedFiles services files'' w, []⟩)
      (buildApplication settings) files' := by
  obtain ⟨-, labRecords, vaultKey, auditKey, pamPassword, targetPassword, shown, -, hkeys, -, -,
    hstands, hprovisioned⟩ := provisionLab_returns env config files hfresh paths files' hrun
  refine (buildApplication_total hreliable hsettings hstands hkeys hprovisioned).mono ?_
  intro o files'' hstarted
  obtain ⟨services, rfl, rfl, -, auditFile, hholding, hstands⟩ := hstarted
  obtain ⟨-, -, -, haudit, -, hauditKey⟩ := runtimeSettings_paths hsettings
  refine ⟨services, auditKey, rfl, ?_, fun past w hserved => main_total ?_⟩
  · rw [hauditKey]
    exact hstands.auditKey
  have hlength : auditKey.length = macSize := (key_regular hstands.auditKey).2
  have hshown := sqlite_eq hstands .audit
  have hchain : RecordedChain auditKey [] (auditState services files'').audit := by
    rw [auditState, haudit, hshown, Function.update_self]
    exact ⟨hholding, by simp, trivial⟩
  obtain ⟨records, hrecorded⟩ := served_chain hchain hlength hserved
  have hwritten := hstands.write .audit ⟨w.audit, auditFile.config⟩
  rw [servedFiles, haudit, hshown, Function.update_self]
  exact RecordedChain.sound hrecorded hwritten.auditKey
    (FileSystem.node_put_self _ _ _)

theorem example_verified_after_service : ∃ paths files' settings,
    RunsOn (RuntimeFiles.Serves exampleEnv) (provisionLab exampleConfig) emptyFiles (.ret paths)
      files' ∧
    runtimeSettings exampleConfig.runtimeDir (.finite 60) = .ok settings ∧
    TotalOn (RuntimeFiles.Answers exampleEnv) (fun o files'' => ∃ services auditKey,
      o = .ret services ∧
      (files''.node services.settings.auditIntegrityKeyPath).key = .ok auditKey ∧
      ∀ past w, ServedBy (ServedAccess.Answers (runtime exampleEnv services files'') auditKey)
        (auditState services files'') past w →
        TotalOn (Answers exampleEnv) (fun o s => o = .ret 0 ∧ s.printed = [ok])
          (main exampleConfig.runtimeDir) ⟨servedFiles services files'' w, []⟩)
      (buildApplication settings) files' := by
  obtain ⟨paths, files', hrun⟩ := example_provisioned
  obtain ⟨settings, hsettings⟩ := example_settings
  exact ⟨paths, files', settings, hrun, hsettings,
    verified_after_service exampleEnv_reliable exampleConfig (fun _ => rfl) hrun hsettings⟩

end Service

end PamMvp.VerificationTool
