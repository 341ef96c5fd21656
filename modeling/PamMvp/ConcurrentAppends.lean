import PamMvp.AppendNeutrality
import PamMvp.PoolComposition
import Mathlib.Data.List.Range

/-!
# Concurrent appends

Any number of writers append to one database that is empty at first. Their calls
interleave in every order, any call may fail, and a writer may crash between two
calls. The committed rows are at every moment a genuine chain numbered from one,
and hold the ids of the commits in the order of the commits.
-/
namespace PamMvp.ConcurrentAppends
open PythonText DomainModel SqliteValues AuditEncoding AuditRepository AuditDatabase
open AuditVerification AppendNeutrality InteractionPrograms SharedPrograms PoolComposition
open HashChains

variable {W : Type} [DecidableEq W]

abbrev WriterPool (W : Type) : Type := Pool auditSignature W (AuditDb W) AppendArgument Unit

abbrev WriterLabel (W : Type) : Type := Label auditSignature W AppendArgument Unit

/-- A crash closes the connection. -/
def crash (w : W) (db : AuditDb W) : AuditDb W := db.release w

def emptyDb : AuditDb W := ⟨[], none⟩

/-- The runs of the writers of one audit database with one key. -/
def WriterRuns (key : Bytes) (trace : List (WriterLabel W)) (pool : WriterPool W) : Prop :=
  PoolRuns append (Serves key) crash emptyDb trace pool

/-- The event that a step commits. -/
def committedEvent : WriterLabel W → Option AppendArgument
  | .called _ event ⟨.commit, .ok _⟩ => some event
  | _ => none

/-- The committed events, in the order of their commits. -/
def commitLog (trace : List (WriterLabel W)) : List AppendArgument :=
  trace.filterMap committedEvent

/-- The id under which an event is stored. -/
def idValue : AppendArgument → SqlValue
  | .auditEvent event =>
    match event.id.plain with
    | .str id => .text (utf8 id)
    | _ => .null
  | .other => .null

/-- The committed rows are a genuine chain in table order. -/
def Chain (key : Bytes) (db : AuditDb W) : Prop :=
  Genuine key db.committed ∧ ordered db.committed = db.committed

section Invariant

variable {key : Bytes} {event : AppendArgument} {w : W} {db db' : AuditDb W}

omit [DecidableEq W] in
theorem Chain.append {row : AuditRow} (h : Chain key db)
    (hrow : NextRow key event db.committed row) (hdb : db'.committed = db.committed ++ [row]) :
    Chain key db' := by
  have hordered : ordered (db.committed ++ [row]) = db.committed ++ [row] := by
    obtain ⟨r, rfl, -, -, -, hlinks, -⟩ := nextRow_record hrow
    rw [ordered_append hlinks, h.2]
  have hgenuine := nextRow_genuine_iff hrow
  rw [hordered, h.2] at hgenuine
  rw [Chain, hdb]
  exact ⟨hgenuine.mpr h.1, hordered⟩

omit [DecidableEq W] in
theorem Chain.commits {c : AuditCall} {r : Reply auditSignature c} (h : Chain key db)
    (hcommits : Commits key event db db' c r) : Chain key db' := by
  by_cases hc : ∃ u, (⟨c, r⟩ : Event auditSignature) = ⟨.commit, .ok u⟩
  · obtain ⟨u, hu⟩ := hc
    cases hu
    obtain ⟨row, hrow, hnew⟩ := hcommits
    exact h.append hrow hnew
  · push Not at hc
    rw [Chain, hcommits.unchanged hc]
    exact h

omit [DecidableEq W] in
/-- Steps of other writers do not change the standing of a writer. -/
theorem undisturbed_frame (h : Undisturbed w db db') : Frame Outside (Local key) w db db' := by
  intro w' hne
  have houtside : Outside w' db → Outside w' db' :=
    fun hout rows hrows => hout rows ((h w' hne rows).1.mp hrows)
  have hholder : ∀ rows, db.transaction = some (w', rows) →
      db'.transaction = some (w', rows) ∧ db'.committed = db.committed :=
    fun rows hrows => ⟨(h w' hne rows).1.mpr hrows, (h w' hne rows).2 hrows⟩
  refine ⟨houtside, fun event φ hlocal => ?_⟩
  cases φ with
  | fresh => exact houtside hlocal
  | committed => exact houtside hlocal
  | closed => exact houtside hlocal
  | keyed k => exact ⟨hlocal.1, houtside hlocal.2⟩
  | begun k =>
    obtain ⟨htransaction, hcommitted⟩ := hholder _ hlocal.2
    exact ⟨hlocal.1, by rw [htransaction, hcommitted]⟩
  | headRead k head =>
    obtain ⟨hkey, hholds, hhead⟩ := hlocal
    obtain ⟨htransaction, hcommitted⟩ := hholder _ hholds
    exact ⟨hkey, by rw [htransaction, hcommitted], by rw [hcommitted, hhead]⟩
  | inserted =>
    obtain ⟨row, hholds, hrow⟩ := hlocal
    obtain ⟨htransaction, hcommitted⟩ := hholder _ hholds
    exact ⟨row, by rw [htransaction, hcommitted], by rw [hcommitted]; exact hrow⟩
  | failed => trivial
  | unreachable => exact hlocal

omit [DecidableEq W] in
theorem ended_outside {φ : Phase} {o : Outcome auditSignature Unit}
    (hlocal : Local key w event φ db) (hended : φ.Ended o) : Outside w db := by
  cases φ with
  | fresh => exact hlocal
  | committed => exact hlocal
  | closed => exact hlocal
  | keyed k => exact hlocal.2
  | unreachable => exact hlocal.elim
  | begun k => cases o <;> simp [Phase.Ended] at hended
  | headRead k head => cases o <;> simp [Phase.Ended] at hended
  | inserted => cases o <;> simp [Phase.Ended] at hended
  | failed => cases o <;> simp [Phase.Ended] at hended

/-- The lock covers what it must: each call of `append` keeps the invariant. -/
theorem append_disciplined (key : Bytes) :
    Disciplined append (Serves (W := W) key) crash appendDiscipline .fresh
      (fun _ => Phase.Ended) (Chain key) Outside (Local key) where
  follows := append_follows
  start _ _ _ h := h
  call w event φ db c r db' hchain hlocal hallowed hserve := by
    have heffect := stepEffect hlocal hallowed hserve
    exact ⟨hchain.commits heffect.commits, heffect.standing⟩
  call_frame w event φ db c r db' _ hlocal hallowed hserve :=
    undisturbed_frame (stepEffect hlocal hallowed hserve).undisturbed
  finish w event φ db o hlocal hended := ended_outside hlocal hended
  crashed w db hchain := by
    refine ⟨?_, release_outside db w⟩
    rw [Chain, crash, release_committed]
    exact hchain
  crashed_frame w db _ := undisturbed_frame undisturbed_release

end Invariant

section Commits

variable {key : Bytes} {event : AppendArgument} {w : W} {table : List AuditRow}

theorem serialize_id {fields : EventFields} (h : serialize event = .ok fields) :
    idValue event = .text (utf8 fields.eventId) := by
  cases event with
  | other => cases h
  | auditEvent event =>
    simp only [serialize, except_bind_ok_iff, pure, Except.pure, Except.ok.injEq] at h
    obtain ⟨id, hid, _, -, _, -, _, -, _, -, _, -, _, -, _, -, _, -, rfl⟩ := h
    unfold requireStr at hid
    cases hobject : event.id.plain with
    | str s =>
      rw [hobject] at hid
      cases hid
      simp [idValue, hobject]
    | _ =>
      rw [hobject] at hid
      cases hid

theorem nextRow_id {row : AuditRow} (h : NextRow key event table row) : row.id = idValue event := by
  obtain ⟨r, rfl, -, -, hfields, -, -⟩ := nextRow_record h
  rw [serialize_id hfields]
  rfl

theorem genuine_numbers {rows : List AuditRow} (h : Genuine key rows) :
    rows.map AuditColumns.sequenceNo =
      (List.range rows.length).map fun i : ℕ => .integer (i + 1) := by
  obtain ⟨records, rfl, -, hchained⟩ := h
  have hnumbers := hchained.numbers
  have hvalues : (records.map recordRow).map AuditColumns.sequenceNo =
      (records.map auditChaining.number).map SqlValue.integer := by
    simp only [List.map_map]
    rfl
  rw [hvalues, hnumbers, List.map_map, List.length_map]
  refine List.map_congr_left fun i _ => ?_
  simp only [Function.comp_apply, SqlValue.integer.injEq]
  omega

/-- The invariant of the pool of writers. -/
abbrev Serialized (key : Bytes) (pool : WriterPool W) : Prop :=
  Orderly appendDiscipline .fresh (fun _ => Phase.Ended) (Chain key) Outside (Local key) pool

omit [DecidableEq W] in
theorem emptyDb_outside (w : W) : Outside w emptyDb := by
  intro rows h
  cases h

omit [DecidableEq W] in
theorem emptyDb_chain : Chain key (emptyDb : AuditDb W) :=
  ⟨⟨[], rfl, by simp, trivial⟩, rfl⟩

theorem WriterRuns.serialized {trace : List (WriterLabel W)} {pool : WriterPool W}
    (h : WriterRuns key trace pool) : Serialized key pool :=
  PoolRuns.orderly (append_disciplined key) emptyDb_chain emptyDb_outside h

/-- A step adds the row of the event it commits, and no other row. -/
theorem committed_step {pool pool' : WriterPool W} {label : WriterLabel W}
    (h : Serialized key pool) (hstep : PoolStep append (Serves key) crash pool label pool') :
    (committedEvent label = none ∧ pool'.shared.committed = pool.shared.committed) ∨
      ∃ event row, committedEvent label = some event ∧ row.id = idValue event ∧
        pool'.shared.committed = pool.shared.committed ++ [row] := by
  cases hstep with
  | start t hw => exact .inl ⟨rfl, rfl⟩
  | get hw => exact .inl ⟨rfl, rfl⟩
  | set hw => exact .inl ⟨rfl, rfl⟩
  | ret hw => exact .inl ⟨rfl, rfl⟩
  | raise hw => exact .inl ⟨rfl, rfl⟩
  | crash hw => exact .inl ⟨rfl, release_committed _ _⟩
  | @call w t past c k r db' hw hserve =>
    have hrunning := h.2 w
    rw [hw] at hrunning
    obtain ⟨hlocal, hallowed, -⟩ := hrunning
    have heffect := stepEffect hlocal hallowed hserve
    by_cases hc : ∃ u, (⟨c, r⟩ : Event auditSignature) = ⟨.commit, .ok u⟩
    · obtain ⟨u, hu⟩ := hc
      cases hu
      obtain ⟨row, hrow, hnew⟩ := heffect.commits
      exact .inr ⟨t, row, rfl, nextRow_id hrow, hnew⟩
    · push Not at hc
      refine .inl ⟨?_, heffect.commits.unchanged hc⟩
      unfold committedEvent
      split
      · rename_i heq
        cases heq
        exact absurd rfl (hc _)
      · rfl

theorem committed_ids {trace : List (WriterLabel W)} {pool : WriterPool W}
    (h : WriterRuns key trace pool) :
    pool.shared.committed.map AuditColumns.id = (commitLog trace).map idValue := by
  induction h with
  | nil => rfl
  | @step trace pool pool' label h hstep ih =>
    rw [commitLog, List.filterMap_append, List.map_append]
    rcases committed_step (WriterRuns.serialized h) hstep with ⟨hnone, hsame⟩ |
      ⟨event, row, hsome, hid, hnew⟩
    · simp [hnone, hsame, ih, commitLog]
    · simp [hsome, hnew, ih, commitLog, hid]

/-- The commit has been made, unless an impossible answer came after it. -/
def Settled (φ : Phase) : Prop := φ = .committed ∨ φ = .unreachable

theorem Settled.next {φ : Phase} (h : Settled φ) (c : AuditCall) (r : Reply auditSignature c) :
    Settled (φ.next c r) := by
  rcases h with rfl | rfl
  · cases c <;> cases r <;> first | exact .inl rfl | exact .inr rfl
  · exact .inr rfl

theorem settled_commit (φ : Phase) (u : Unit) : Settled (φ.next .commit (.ok u)) := by
  cases φ <;> first | exact .inl rfl | exact .inr rfl

theorem next_eq_committed {φ : Phase} {c : AuditCall} {r : Reply auditSignature c}
    (h : φ.next c r = .committed) :
    φ = .committed ∨ ∃ u, (⟨c, r⟩ : Event auditSignature) = ⟨.commit, .ok u⟩ := by
  unfold Phase.next at h
  split at h
  all_goals first
    | exact .inl rfl
    | exact .inr ⟨_, rfl⟩
    | exact .inl h
    | (split at h <;> cases h)
    | cases h

theorem after_cons (φ : Phase) (ev : Event auditSignature) (past : List (Event auditSignature)) :
    (appendDiscipline event).after φ (ev :: past) =
      (appendDiscipline event).after (φ.next ev.1 ev.2) past := rfl

theorem Settled.after {φ : Phase} (h : Settled φ) (past : List (Event auditSignature)) :
    Settled ((appendDiscipline event).after φ past) := by
  induction past generalizing φ with
  | nil => exact h
  | cons ev past ih =>
    rw [after_cons]
    exact ih (h.next ev.1 ev.2)

theorem settled_of_commit {φ : Phase} {past : List (Event auditSignature)} {u : Unit}
    (h : ⟨.commit, .ok u⟩ ∈ past) : Settled ((appendDiscipline event).after φ past) := by
  induction past generalizing φ with
  | nil => cases h
  | cons ev past ih =>
    rw [after_cons]
    rcases List.mem_cons.mp h with rfl | h
    · exact (settled_commit φ u).after past
    · exact ih h

theorem commit_of_after {φ : Phase} {past : List (Event auditSignature)}
    (h : (appendDiscipline event).after φ past = .committed) :
    φ = .committed ∨ ∃ u, ⟨.commit, .ok u⟩ ∈ past := by
  induction past generalizing φ with
  | nil => exact .inl h
  | cons ev past ih =>
    rw [after_cons] at h
    rcases ih h with hnext | ⟨u, hu⟩
    · rcases next_eq_committed hnext with hφ | ⟨u, hu⟩
      · exact .inl hφ
      · exact .inr ⟨u, by rw [← hu]; exact List.mem_cons_self ..⟩
    · exact .inr ⟨u, List.mem_cons_of_mem ev hu⟩

/-- A raising `append` has committed nothing. -/
theorem raised_uncommitted {trace : List (WriterLabel W)} {pool : WriterPool W}
    (h : WriterRuns key trace pool) {past : List (Event auditSignature)} {e : PyExn}
    (hraised : .raised w event past e ∈ trace) (u : Unit) : ⟨.commit, .ok u⟩ ∉ past := by
  intro hcommit
  obtain ⟨hended, db, hlocal⟩ := (PoolRuns.ended (append_disciplined key) emptyDb_chain
    emptyDb_outside h).2 _ _ _ _ hraised
  have hsettled : Settled ((appendDiscipline event).after .fresh past) := settled_of_commit hcommit
  rcases hsettled with hφ | hφ
  · rw [hφ] at hended
    rcases hended with hend | ⟨_, hend⟩ | hend <;> cases hend
  · rw [hφ] at hlocal
    exact hlocal

/-- A returning `append` has committed. -/
theorem returned_committed {trace : List (WriterLabel W)} {pool : WriterPool W}
    (h : WriterRuns key trace pool) {past : List (Event auditSignature)} {u : Unit}
    (hreturned : .returned w event past u ∈ trace) : ∃ u, ⟨.commit, .ok u⟩ ∈ past := by
  obtain ⟨hended, db, hlocal⟩ := (PoolRuns.ended (append_disciplined key) emptyDb_chain
    emptyDb_outside h).1 _ _ _ _ hreturned
  have hφ : (appendDiscipline event).after .fresh past = .committed := by
    cases hafter : (appendDiscipline event).after .fresh past with
    | committed => rfl
    | unreachable =>
      rw [hafter] at hlocal
      exact hlocal.elim
    | _ =>
      rw [hafter] at hended
      cases hended
  exact (commit_of_after hφ).resolve_left nofun

/-- At every moment the committed rows are numbered from one, pass verification, and
hold the committed events in the order of their commits. Only a commit changes
them, a raising call has made none, and a returning call has. -/
theorem appends_serialize (hkey : key.length = macSize) {trace : List (WriterLabel W)}
    {pool : WriterPool W} (h : WriterRuns key trace pool) :
    pool.shared.committed.map AuditColumns.sequenceNo =
        ((List.range pool.shared.committed.length).map fun i : ℕ => .integer (i + 1)) ∧
      Accepts key pool.shared.committed ∧
      pool.shared.committed.map AuditColumns.id = (commitLog trace).map idValue ∧
      (∀ label pool', PoolStep append (Serves key) crash pool label pool' →
        committedEvent label = none → pool'.shared.committed = pool.shared.committed) ∧
      (∀ w event past e, .raised w event past e ∈ trace → ∀ u, ⟨.commit, .ok u⟩ ∉ past) ∧
      ∀ w event past u, .returned w event past u ∈ trace → ∃ u, ⟨.commit, .ok u⟩ ∈ past := by
  obtain ⟨hgenuine, hordered⟩ := h.serialized.1
  refine ⟨genuine_numbers hgenuine, ?_, committed_ids h, ?_, ?_, ?_⟩
  · rw [accepts_iff, hordered]
    exact ⟨hkey, hgenuine⟩
  · intro label pool' hstep hnone
    rcases committed_step h.serialized hstep with ⟨-, hsame⟩ | ⟨event, row, hsome, -⟩
    · exact hsame
    · rw [hnone] at hsome
      cases hsome
  · exact fun w event past e hraised u => raised_uncommitted h hraised u
  · exact fun w event past u hreturned => returned_committed h hreturned

end Commits

section Example

/-- Two writers that start together; the second finds the lock taken and starts again later. -/
def exampleSchedule : List (Bool × Option AppendArgument) :=
  [(true, some (exampleEvent (py "e-1"))), (false, some (exampleEvent (py "e-2"))), (true, none),
    (false, none), (true, none), (false, none), (true, none), (false, none)] ++
  List.replicate 8 (true, none) ++ List.replicate 8 (false, none) ++
  [(false, some (exampleEvent (py "e-3")))] ++ List.replicate 8 (false, none)

def exampleRun : List (WriterLabel Bool) × WriterPool Bool :=
  runSchedule append (answer exampleKey) exampleSchedule ([], ⟨emptyDb, fun _ => none⟩)

theorem appends_serialize_example :
    exampleRun.2.shared.committed.map AuditColumns.id =
        [.text (utf8 (py "e-1")), .text (utf8 (py "e-3"))] ∧
      Accepts exampleKey exampleRun.2.shared.committed := by
  have hruns : WriterRuns exampleKey exampleRun.1 exampleRun.2 :=
    runSchedule_runs (fun w db c => .answered c) exampleSchedule .nil
  obtain ⟨-, haccepts, hids, -⟩ := appends_serialize (by decide) hruns
  refine ⟨?_, haccepts⟩
  rw [hids]
  decide +kernel

end Example

end PamMvp.ConcurrentAppends
