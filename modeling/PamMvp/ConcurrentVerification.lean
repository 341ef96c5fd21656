import PamMvp.ConcurrentAppends
import PamMvp.PoolComposition

/-!
# Verifying while others append

Verifications of the audit chain run beside the writers, on the same database and in any
order of calls. A verification changes nothing and holds no lock, so a run without it is a
run of the writers. It reads the rows that are committed at one moment, and raises an
integrity error only after a call that failed with an exception that is not one of SQLite.
-/
namespace PamMvp.ConcurrentVerification
open PythonText DomainModel SqliteValues AuditEncoding AuditRepository AuditDatabase
open AuditVerification AppendNeutrality ConcurrentAppends InteractionPrograms SharedPrograms
  PoolComposition

variable {W : Type} [DecidableEq W]

/-- An event to append, or a verification. -/
abbrev AuditTask : Type := AppendArgument ⊕ Unit

def verifyTask (_ : Unit) : Audit Unit := verifyIntegrity

abbrev AuditPool (W : Type) : Type := Pool auditSignature W (AuditDb W) AuditTask Unit

abbrev AuditLabel (W : Type) : Type := Label auditSignature W AuditTask Unit

/-- The runs of writers and verifiers of one audit database with one key. -/
def AuditRuns (key : Bytes) (trace : List (AuditLabel W)) (pool : AuditPool W) : Prop :=
  PoolRuns (Sum.elim append verifyTask) (Serves key) crash emptyDb trace pool

abbrev History : Type := List (Event auditSignature)

section Verification

/-- The calls of `verify_integrity`. -/
inductive Verifies : AuditCall → Prop where
  | getKey : Verifies .getKey
  | connect : Verifies .connect
  | selectRows : Verifies .selectRows
  | close : Verifies .close

def Loaded (past : History) (k : Bytes) : Prop := ∃ v, ⟨.getKey, .ok v⟩ ∈ past ∧ checkKey v = .ok k

def Read (past : History) (rows : List (Except PyExn (List PyValue))) : Prop :=
  ⟨.selectRows, .ok rows⟩ ∈ past

def Raised (past : History) (e : PyExn) : Prop := ∃ c, ⟨c, .error e⟩ ∈ past

/-- A call has raised something that is not an error of SQLite. -/
def Foreign (past : History) : Prop := ∃ e, Raised past e ∧ isSqliteError e = false

/-- How the body of a verification ends with the key `k`. -/
def Checked (k : Bytes) (past : History) : Outcome auditSignature Unit → Prop
  | .ret _ => ∃ rows, Read past rows
  | .raise e => Raised past e ∨
    ∃ rows, Read past rows ∧ verifyRows k 1 genesisMac rows = .error e

/-- How a verification ends. -/
def Verdict (past : History) : Outcome auditSignature Unit → Prop
  | .ret _ => ∃ rows, Read past rows
  | .raise e => e.cls = .auditIntegrityError → Foreign past ∨
    ∃ k rows, Loaded past k ∧ Read past rows ∧ verifyRows k 1 genesisMac rows ≠ .ok ()

variable {k : Bytes} {past past' : History} {o : Outcome auditSignature Unit}

theorem Loaded.mono (h : Loaded past k) (hpast : past ⊆ past') : Loaded past' k := by
  obtain ⟨v, hv, hk⟩ := h
  exact ⟨v, hpast hv, hk⟩

theorem Checked.mono (h : Checked k past o) (hpast : past ⊆ past') : Checked k past' o := by
  cases o with
  | ret u =>
    obtain ⟨rows, hrows⟩ := h
    exact ⟨rows, hpast hrows⟩
  | raise e =>
    rcases h with ⟨c, hc⟩ | ⟨rows, hrows, herror⟩
    · exact .inl ⟨c, hpast hc⟩
    · exact .inr ⟨rows, hpast hrows, herror⟩

theorem keyNotLoaded_cls {e : PyExn} : (keyNotLoaded e).cls ≠ .auditIntegrityError := by
  unfold keyNotLoaded
  split_ifs with he
  · decide
  · intro hcls
    apply he
    rw [PyExn.isException, hcls]
    decide

theorem checkKey_cls {v : PyValue} {e : PyExn} (h : checkKey v = .error e) :
    e.cls ≠ .auditIntegrityError := by
  have hmessage :
      e = raised .auditStorageError (py "audit integrity key must be exactly 32 bytes") := by
    unfold checkKey at h
    split at h
    · split_ifs at h
      exact (Except.error.inj h).symm
    · exact (Except.error.inj h).symm
  rw [hmessage]
  decide

/-- Of the errors of a body, SQLite's become storage errors. -/
theorem verifyError_cls {e : PyExn} (h : (verifyError e).cls = .auditIntegrityError) :
    isSqliteError e = false := by
  by_contra hsqlite
  have hcls : e.cls = .sqliteError ∨ e.cls = .sqliteIntegrityError := by
    rw [Bool.not_eq_false] at hsqlite
    simpa [isSqliteError] using hsqlite
  have hother : e.cls ≠ .auditIntegrityError := by
    rcases hcls with hcls | hcls
    all_goals
      rw [hcls]
      decide
  rw [verifyError, if_neg hother, if_pos (by simpa using hsqlite)] at h
  exact absurd h (by decide)

theorem loadKey_loads :
    Follows (historyDiscipline Verifies) (fun past o => match o with
      | .ret k => Loaded past k
      | .raise e => e.cls ≠ .auditIntegrityError) loadKey [] := by
  have hget : Follows (historyDiscipline Verifies) (fun past o => match o with
      | .ret v => past = [⟨.getKey, .ok v⟩]
      | .raise e => e.cls ≠ .auditIntegrityError) (rethrowing (ask .getKey) keyNotLoaded) [] := by
    apply Follows.tryExcept (Q := fun past o => match o with
      | .ret v => past = [⟨.getKey, .ok v⟩]
      | .raise _ => True)
    · apply Follows.perform
      · exact .getKey
      · intro v
        rfl
      · intro e
        trivial
    · intro past v hv
      exact hv
    · intro past e _
      exact keyNotLoaded_cls
  apply hget.bind
  · intro past v hv
    apply Follows.ofReply
    · intro k hk
      rw [hv]
      exact ⟨v, List.mem_singleton_self _, hk⟩
    · intro e he
      exact checkKey_cls he
  · intro past e he
    exact he

/-- The rows are read under an open connection, which is closed whatever they are. -/
theorem connected_checks (h : Loaded past k) :
    Follows (historyDiscipline Verifies) (fun past o => Loaded past k ∧ Checked k past o)
      (connected do
        let rows ← ask .selectRows
        lift (verifyRows k 1 genesisMac rows)) past := by
  have hgrows (past : History) (ev : Event auditSignature) : past ⊆ past ++ [ev] :=
    List.subset_append_left past [ev]
  have hlast (past : History) (ev : Event auditSignature) : ev ∈ past ++ [ev] := by simp
  apply Follows.bind (Q := fun past o => Loaded past k ∧ match o with
    | .ret _ => True
    | .raise e => Raised past e)
  · apply Follows.perform
    · exact .connect
    · intro u
      exact ⟨h.mono (hgrows _ _), trivial⟩
    · intro e
      exact ⟨h.mono (hgrows _ _), .connect, hlast _ _⟩
  · intro past u hconnected
    apply Follows.tryFinally (Q := fun past o => Loaded past k ∧ Checked k past o)
    · apply Follows.bind (Q := fun past o => Loaded past k ∧ match o with
        | .ret rows => Read past rows
        | .raise e => Raised past e)
      · apply Follows.perform
        · exact .selectRows
        · intro rows
          exact ⟨hconnected.1.mono (hgrows _ _), hlast _ _⟩
        · intro e
          exact ⟨hconnected.1.mono (hgrows _ _), .selectRows, hlast _ _⟩
      · intro past rows hread
        apply Follows.ofReply
        · intro u _
          exact ⟨hread.1, rows, hread.2⟩
        · intro e he
          exact ⟨hread.1, .inr ⟨rows, hread.2, he⟩⟩
      · intro past e hraised
        exact ⟨hraised.1, .inl hraised.2⟩
    · intro past o hchecked
      apply Follows.perform
      · exact .close
      · intro u
        exact ⟨hchecked.1.mono (hgrows _ _), hchecked.2.mono (hgrows _ _)⟩
      · intro e
        exact ⟨hchecked.1.mono (hgrows _ _), .inl ⟨.close, hlast _ _⟩⟩
  · intro past e hraised
    exact ⟨hraised.1, .inl hraised.2⟩

theorem verifyIntegrity_follows :
    Follows (historyDiscipline Verifies) Verdict verifyIntegrity [] := by
  apply loadKey_loads.bind
  · intro past k hloaded
    apply (connected_checks hloaded).tryExcept
    · intro past u hchecked
      exact hchecked.2
    · intro past e hchecked hcls
      obtain ⟨hloaded, hraised | ⟨rows, hrows, herror⟩⟩ := hchecked
      · exact .inl ⟨e, hraised, verifyError_cls hcls⟩
      · refine .inr ⟨k, rows, hloaded, hrows, ?_⟩
        rw [herror]
        simp
  · intro past e he hcls
    exact absurd hcls he

end Verification

section Standing

variable {key : Bytes} {w : W} {db db' : AuditDb W} {past : History}

/-- What a verification at work knows: its key, and that the rows it read were a chain. -/
structure Verifying (key : Bytes) (w : W) (past : History) (db : AuditDb W) : Prop where
  outside : Outside w db
  loaded : ∀ k, Loaded past k → k = key
  chain : ∀ rows, Read past rows → ∃ table, rows = fetchRows table ∧ Genuine key (ordered table)

theorem release_of_outside (h : Outside w db) : db.release w = db := by
  unfold AuditDb.release
  split
  · rename_i holder rows htransaction
    split_ifs with hholder
    · subst hholder
      exact absurd htransaction (h rows)
    · rfl
  · rfl

theorem visible_of_outside (h : Outside w db) : db.visible w = db.committed := by
  unfold AuditDb.visible
  split
  · rename_i holder rows htransaction
    split_ifs with hholder
    · subst hholder
      exact absurd htransaction (h rows)
    · rfl
  · rfl

/-- A verification leaves the database as it is. -/
theorem verifies_unchanged {c : AuditCall} {r : Reply auditSignature c} (h : Outside w db)
    (hc : Verifies c) (hserve : Serves key w db c r db') : db' = db := by
  cases hserve with
  | answered =>
    cases hc with
    | close => exact release_of_outside h
    | _ => rfl
  | failed => rfl
  | rolledBack => exact release_of_outside h
  | wrongKey => rfl

theorem loaded_served {v : PyValue} {k : Bytes} (hserve : Serves key w db .getKey (.ok v) db')
    (hk : checkKey v = .ok k) : k = key := by
  generalize hr : (Except.ok v : Reply auditSignature .getKey) = r at hserve
  cases hserve with
  | answered =>
    cases hr
    obtain ⟨hkey, -⟩ := (checkKey_ok_iff _ _).mp hk
    cases hkey
    rfl
  | failed => cases hr
  | rolledBack => cases hr
  | wrongKey v' hv =>
    cases hr
    exact absurd hk (hv k)

theorem read_served {rows : List (Except PyExn (List PyValue))} (h : Outside w db)
    (hserve : Serves key w db .selectRows (.ok rows) db') : rows = fetchRows db.committed := by
  generalize hr : (Except.ok rows : Reply auditSignature .selectRows) = r at hserve
  cases hserve with
  | answered =>
    have hrows := Except.ok.inj hr
    rw [visible_of_outside h] at hrows
    exact hrows
  | failed => cases hr
  | rolledBack => cases hr

theorem Verifying.step {c : AuditCall} {r : Reply auditSignature c} (h : Verifying key w past db)
    (hchain : Chain key db) (hc : Verifies c) (hserve : Serves key w db c r db') :
    Verifying key w (past ++ [⟨c, r⟩]) db' := by
  have hsame := verifies_unchanged h.outside hc hserve
  refine ⟨hsame ▸ h.outside, fun k hk => ?_, fun rows hrows => ?_⟩
  · obtain ⟨v, hv, hk⟩ := hk
    rcases List.mem_append.mp hv with hv | hv
    · exact h.loaded k ⟨v, hv, hk⟩
    · have hnew := List.mem_singleton.mp hv
      cases hnew
      exact loaded_served hserve hk
  · rcases List.mem_append.mp hrows with hrows | hrows
    · exact h.chain rows hrows
    · have hnew := List.mem_singleton.mp hrows
      cases hnew
      refine ⟨db.committed, read_served h.outside hserve, ?_⟩
      rw [hchain.2]
      exact hchain.1

omit [DecidableEq W] in
/-- Nothing but its own lock matters to a verification. -/
theorem frame_verifying (h : Frame Outside (Local key) w db db') :
    Frame Outside (fun w (_ : Unit) => Verifying key w) w db db' := by
  intro w' hne
  refine ⟨(h w' hne).1, fun _ past hverifying => ?_⟩
  exact ⟨(h w' hne).1 hverifying.outside, hverifying.loaded, hverifying.chain⟩

omit [DecidableEq W] in
theorem frame_unchanged {τ Φ : Type} {L : W → τ → Φ → AuditDb W → Prop} (hsame : db' = db) :
    Frame Outside L w db db' := by
  rw [hsame]
  exact fun _ _ => ⟨id, fun _ _ => id⟩

theorem verify_disciplined (key : Bytes) :
    Disciplined verifyTask (Serves (W := W) key) crash (fun _ => historyDiscipline Verifies) []
      (fun _ => Verdict) (Chain key) Outside (fun w _ => Verifying key w) where
  follows _ := verifyIntegrity_follows
  start w _ db houtside := by
    refine ⟨houtside, fun k hk => ?_, fun rows hrows => ?_⟩
    · obtain ⟨v, hv, -⟩ := hk
      cases hv
    · cases hrows
  call w _ past db c r db' hchain hlocal hallowed hserve := by
    refine ⟨?_, hlocal.step hchain hallowed hserve⟩
    rw [verifies_unchanged hlocal.outside hallowed hserve]
    exact hchain
  call_frame w _ past db c r db' _ hlocal hallowed hserve :=
    frame_unchanged (verifies_unchanged hlocal.outside hallowed hserve)
  finish w _ past db o hlocal _ := hlocal.outside
  crashed := (append_disciplined key).crashed
  crashed_frame w db hchain := frame_verifying ((append_disciplined key).crashed_frame w db hchain)

/-- Writers and verifiers keep to their disciplines side by side. -/
theorem audit_disciplined (key : Bytes) :
    Disciplined (Sum.elim append verifyTask) (Serves (W := W) key) crash
      (bothDisciplines appendDiscipline fun _ => historyDiscipline Verifies) (.fresh, [])
      (bothEnds (fun _ => Phase.Ended) fun _ => Verdict) (Chain key) Outside
      (bothLocal (Local key) fun w _ => Verifying key w) := by
  apply Disciplined.both (append_disciplined key) (verify_disciplined key)
  · intro w event φ db c r db' hchain hlocal hallowed hserve
    have hframe := (append_disciplined key).call_frame w event φ db c r db' hchain hlocal
      hallowed hserve
    exact frame_verifying hframe
  · intro w _ past db c r db' _ hlocal hallowed hserve
    exact frame_unchanged (verifies_unchanged hlocal.outside hallowed hserve)

theorem verify_passive (key : Bytes) :
    Passive (Serves (W := W) key) crash (fun _ : Unit => historyDiscipline Verifies)
      (fun w _ => Verifying key w) where
  call _ _ _ _ _ _ _ hlocal hallowed hserve :=
    verifies_unchanged hlocal.outside hallowed hserve
  crashed _ _ _ _ hlocal := release_of_outside hlocal.outside

end Standing

section Runs

variable {key : Bytes} {trace : List (AuditLabel W)} {pool : AuditPool W}

/-- Without its verifications a run is one of the writers. -/
theorem AuditRuns.writers (h : AuditRuns key trace pool) :
    WriterRuns key (trace.filterMap leftLabel) (leftPool pool) :=
  PoolRuns.erase (verify_passive key) (audit_disciplined key) emptyDb_chain emptyDb_outside h

/-- How many events the steps have committed. -/
def commits (trace : List (AuditLabel W)) : ℕ := (commitLog (trace.filterMap leftLabel)).length

theorem AuditRuns.length_committed (h : AuditRuns key trace pool) :
    pool.shared.committed.length = commits trace := by
  have hids := congrArg List.length (committed_ids h.writers)
  simpa [leftPool, commits] using hids

/-- Rows are only ever added at the end. -/
theorem AuditRuns.committed_prefix (h : AuditRuns key trace pool) {label : AuditLabel W}
    {pool' : AuditPool W}
    (hstep : PoolStep (Sum.elim append verifyTask) (Serves key) crash pool label pool') :
    pool.shared.committed <+: pool'.shared.committed := by
  have horderly := PoolRuns.orderly (audit_disciplined key) emptyDb_chain emptyDb_outside h
  rcases PoolStep.erase (verify_passive key) horderly hstep with ⟨seen, -, hleft⟩ | ⟨-, hsame⟩
  · rcases committed_step h.writers.serialized hleft with ⟨-, hsame⟩ | ⟨event, row, -, -, hnew⟩
    · exact hsame ▸ List.prefix_rfl
    · exact hnew ▸ List.prefix_append _ _
  · have hshared := congrArg (fun p : WriterPool W => p.shared.committed) hsame
    exact hshared ▸ List.prefix_rfl

/-- A read finds what had been committed before it. -/
theorem reads_committed (h : AuditRuns key trace pool) {before after : List (AuditLabel W)} {w : W}
    {rows : List (Except PyExn (List PyValue))}
    (htrace : trace = before ++ .called w (.inr ()) ⟨.selectRows, .ok rows⟩ :: after) :
    rows = fetchRows (pool.shared.committed.take (commits before)) := by
  induction h generalizing after with
  | nil =>
    have hlength := congrArg List.length htrace
    simp at hlength
  | @step trace pool pool' label h hstep ih =>
    rcases List.eq_nil_or_concat after with rfl | ⟨after, last, rfl⟩
    · obtain ⟨rfl, hlabel⟩ := List.append_inj' htrace rfl
      have hlabel := List.singleton_inj.mp hlabel
      subst hlabel
      cases hstep with
      | @call _ _ past _ k _ db' hw hserve =>
        have horderly := PoolRuns.orderly (audit_disciplined key) emptyDb_chain emptyDb_outside h
        have hstanding := horderly.2 w
        rw [hw] at hstanding
        obtain ⟨hlocal, hrest⟩ := hstanding
        have hread := read_served (Verifying.outside hlocal) hserve
        have hsame := verifies_unchanged (Verifying.outside hlocal) .selectRows hserve
        have hall : db'.committed.take (commits trace) = pool.shared.committed := by
          rw [hsame, ← AuditRuns.length_committed h, List.take_length]
        change rows = fetchRows (db'.committed.take (commits trace))
        rw [hall]
        exact hread
    · have hconcat : trace ++ [label] =
          (before ++ .called w (.inr ()) ⟨.selectRows, .ok rows⟩ :: after) ++ [last] := by
        rw [htrace]
        simp
      obtain ⟨htrace, -⟩ := List.append_inj' hconcat rfl
      have hrows := ih htrace
      have hprefix := AuditRuns.committed_prefix h hstep
      have hshort : commits before ≤ pool.shared.committed.length := by
        rw [AuditRuns.length_committed h, htrace]
        simp [commits, commitLog]
      rw [hrows]
      congr 1
      obtain ⟨rest, hrest⟩ := hprefix
      rw [← hrest, List.take_append_of_le_length hshort]

/-- A verification that raised an integrity error has seen a call fail in a foreign way. -/
theorem raised_foreign (h : AuditRuns key trace pool) {w : W} {past : History} {e : PyExn}
    (hraised : .raised w (.inr ()) past e ∈ trace) (he : e.cls = .auditIntegrityError) :
    Foreign past := by
  have hended := (PoolRuns.ended (audit_disciplined key) emptyDb_chain emptyDb_outside h).2
    w (.inr ()) past e hraised
  simp only [bothDisciplines, after_right, after_history, List.nil_append] at hended
  obtain ⟨hverdict, db, hlocal⟩ := hended
  rcases hverdict he with hforeign | ⟨k, rows, hloaded, hrows, hrefused⟩
  · exact hforeign
  · have hverifying : Verifying key w past db := hlocal
    obtain ⟨table, rfl, hgenuine⟩ := hverifying.chain rows hrows
    rw [hverifying.loaded k hloaded] at hrefused
    exact absurd ((verifyRows_genuine_iff _).mpr hgenuine) hrefused

theorem returned_read (h : AuditRuns key trace pool) {w : W} {past : History} {u : Unit}
    (hreturned : .returned w (.inr ()) past u ∈ trace) : ∃ rows, Read past rows := by
  have hended := (PoolRuns.ended (audit_disciplined key) emptyDb_chain emptyDb_outside h).1
    w (.inr ()) past u hreturned
  simp only [bothDisciplines, after_right, after_history, List.nil_append] at hended
  exact hended.1

/-- Verifications beside appends, in any order of calls: without them the run is one of the
writers, one that returned has read the rows committed at some moment, and one that raised an
integrity error has seen a call fail with an exception that is not one of SQLite. -/
theorem verifications_interleave (h : AuditRuns key trace pool) :
    WriterRuns key (trace.filterMap leftLabel) (leftPool pool) ∧
      (∀ w past u, .returned w (.inr ()) past u ∈ trace → ∃ before rows after,
        Read past rows ∧ trace = before ++ .called w (.inr ()) ⟨.selectRows, .ok rows⟩ :: after ∧
          rows = fetchRows (pool.shared.committed.take (commits before))) ∧
      ∀ w past e, .raised w (.inr ()) past e ∈ trace → e.cls = .auditIntegrityError →
        Foreign past := by
  refine ⟨h.writers, ?_, ?_⟩
  · intro w past u hreturned
    obtain ⟨rows, hrows⟩ := returned_read h hreturned
    have hcalled := PoolRuns.returned_called h hreturned _ hrows
    obtain ⟨before, after, htrace⟩ := List.append_of_mem hcalled
    exact ⟨before, rows, after, hrows, htrace, reads_committed h htrace⟩
  · intro w past e hraised he
    exact raised_foreign h hraised he

end Runs

section Example

/-- A verification that starts between two appends and reads while the second is open. -/
def exampleSchedule : List (Bool × Option AuditTask) :=
  [(true, some (.inl (exampleEvent (py "e-1"))))] ++ List.replicate 8 (true, none) ++
    [(true, some (.inl (exampleEvent (py "e-2")))), (false, some (.inr ()))] ++
    (List.replicate 3 [(true, none), (false, none)]).flatten ++
    List.replicate 6 (true, none) ++ List.replicate 3 (false, none)

def exampleRun : List (AuditLabel Bool) × AuditPool Bool :=
  runSchedule (Sum.elim append verifyTask) (answer exampleKey) exampleSchedule
    ([], ⟨emptyDb, fun _ => none⟩)

def returnedPast : AuditLabel Bool → Option History
  | .returned false (.inr ()) past _ => some past
  | _ => none

theorem verifications_interleave_example : ∃ past before rows after, Read past rows ∧
    exampleRun.1 = before ++ .called false (.inr ()) ⟨.selectRows, .ok rows⟩ :: after ∧
      rows = fetchRows (exampleRun.2.shared.committed.take (commits before)) := by
  have hruns : AuditRuns exampleKey exampleRun.1 exampleRun.2 :=
    runSchedule_runs (fun w db c => .answered c) exampleSchedule .nil
  have hfound : (exampleRun.1.findSome? returnedPast).isSome = true := by decide +kernel
  obtain ⟨past, hpast⟩ := Option.isSome_iff_exists.mp hfound
  obtain ⟨label, hlabel, hreturned⟩ := List.exists_of_findSome?_eq_some hpast
  unfold returnedPast at hreturned
  split at hreturned
  · exact ⟨_, (verifications_interleave hruns).2.1 _ _ _ hlabel⟩
  · cases hreturned

end Example

end PamMvp.ConcurrentVerification
