import PamMvp.SessionLifecycle

/-!
# Runs of a session

The mutators of a session as sequences of statements over its fields. An
exception leaves behind the fields as the statements before it set them, so that
a call that raises changes nothing is a theorem here, and the mutators of the
session record are what the statements amount to.
-/
namespace PamMvp.SessionRuns
open PythonText DateTimes DomainModel SessionLifecycle

/-- A method body over the fields of the object. -/
abbrev Method : Type → Type := ExceptT PyExn (StateM Session)

/-- What the body returned or raised, and the fields it left. -/
def Method.exec {α : Type} (body : Method α) (s : Session) : Except PyExn α × Session :=
  Id.run ((ExceptT.run body).run s)

/-- A check that reads the fields. -/
def check (test : Session → Except PyExn Unit) : Method Unit := do
  match test (← get) with
  | .ok _ => return ()
  | .error e => throw e

/-- The reason is any object; `none` is one that is not a string. -/
def validateTerminalValues (endedAt : DateTime) (reason : Option PyStr) : Method Unit := do
  check fun _ => requireAware endedAt (py "ended_at")
  check fun s => s.requireNotBeforeStart endedAt
  check fun _ => requireReason reason

/-- `if not allowed(self.status): raise ValueError(message)`. -/
def requireStatus (allowed : List SessionStatus) (message : PyStr) : Method Unit :=
  check fun s => if s.status ∈ allowed then .ok () else .error (raised .valueError message)

def markActive : Method Unit := do
  requireStatus [.opening] (py "only an opening session can become active")
  modify fun s => { s with status := .active }

def markFailed (endedAt : DateTime) (reason : Option PyStr) : Method Unit := do
  requireStatus [.opening, .active] (py "only an opening or active session can fail")
  validateTerminalValues endedAt reason
  modify fun s => { s with status := .failed }
  modify fun s => { s with endedAt := some endedAt }
  modify fun s => { s with closeReason := reason }

def markClosed (endedAt : DateTime) (reason : Option PyStr) : Method Unit := do
  requireStatus [.active] (py "only an active session can close")
  validateTerminalValues endedAt reason
  modify fun s => { s with status := .closed }
  modify fun s => { s with endedAt := some endedAt }
  modify fun s => { s with closeReason := reason }

inductive Call where
  | markActive
  | markFailed (endedAt : DateTime) (reason : Option PyStr)
  | markClosed (endedAt : DateTime) (reason : Option PyStr)

def Call.method : Call → Method Unit
  | .markActive => SessionRuns.markActive
  | .markFailed endedAt reason => SessionRuns.markFailed endedAt reason
  | .markClosed endedAt reason => SessionRuns.markClosed endedAt reason

/-- One call on a session object. -/
def Call.apply (c : Call) (s : Session) : Except PyExn Unit × Session := c.method.exec s

/-- The session after a sequence of calls, whether they returned or raised. -/
def after (s : Session) (calls : List Call) : Session :=
  calls.foldl (fun s c => (c.apply s).2) s

section Mutators

variable (s : Session) (endedAt : DateTime)

theorem exec_bind {α β : Type} (p : Method α) (f : α → Method β) :
    (p >>= f).exec s = match p.exec s with
      | (.ok a, t) => (f a).exec t
      | (.error e, t) => (.error e, t) := by
  unfold Method.exec
  simp only [ExceptT.run_bind, StateT.run_bind, Id.run_bind]
  rcases Id.run ((ExceptT.run p).run s) with ⟨r, t⟩
  cases r <;> rfl

@[simp] theorem exec_get : (get : Method Session).exec s = (.ok s, s) := rfl

@[simp] theorem exec_modify (f : Session → Session) :
    (modify f : Method Unit).exec s = (.ok (), f s) := rfl

@[simp] theorem exec_check (test : Session → Except PyExn Unit) :
    (check test).exec s = (test s, s) := by
  unfold check
  simp only [exec_bind, exec_get]
  cases test s <;> rfl

/-- The checks of a terminal transition run in order and assign nothing. -/
theorem exec_validate (reason : PyStr) :
    (validateTerminalValues endedAt (some reason)).exec s =
      (s.validateTerminalValues endedAt reason, s) := by
  unfold validateTerminalValues Session.validateTerminalValues
  simp only [exec_bind, exec_check]
  cases requireAware endedAt (py "ended_at") with
  | error e => rfl
  | ok u =>
    dsimp only
    cases s.requireNotBeforeStart endedAt with
    | error e => rfl
    | ok u => rfl

theorem exec_validate_none : ∃ e, (validateTerminalValues endedAt none).exec s = (.error e, s) := by
  unfold validateTerminalValues
  simp only [exec_bind, exec_check]
  cases requireAware endedAt (py "ended_at") with
  | error e => exact ⟨e, rfl⟩
  | ok u =>
    dsimp only
    cases s.requireNotBeforeStart endedAt with
    | error e => exact ⟨e, rfl⟩
    | ok u => exact ⟨_, rfl⟩

/-- The result of a method that computes the new fields or raises before any assignment. -/
def outcome (r : Except PyExn Session) : Except PyExn Unit × Session :=
  match r with
  | .ok t => (.ok (), t)
  | .error e => (.error e, s)

theorem exec_markActive : markActive.exec s = outcome s s.markActive := by
  unfold markActive requireStatus Session.markActive
  simp only [exec_bind, exec_check, List.mem_singleton]
  split_ifs with h
  · rfl
  · rfl

theorem exec_markFailed (reason : PyStr) :
    (markFailed endedAt (some reason)).exec s = outcome s (s.markFailed endedAt reason) := by
  unfold markFailed requireStatus Session.markFailed
  simp only [exec_bind, exec_check, exec_validate, exec_modify, List.mem_cons, List.not_mem_nil,
    or_false]
  split_ifs with h
  · dsimp only
    cases s.validateTerminalValues endedAt reason with
    | error e => rfl
    | ok u => rfl
  · rfl

theorem exec_markClosed (reason : PyStr) :
    (markClosed endedAt (some reason)).exec s = outcome s (s.markClosed endedAt reason) := by
  unfold markClosed requireStatus Session.markClosed
  simp only [exec_bind, exec_check, exec_validate, exec_modify, List.mem_singleton]
  split_ifs with h
  · dsimp only
    cases s.validateTerminalValues endedAt reason with
    | error e => rfl
    | ok u => rfl
  · rfl

/-- A reason that is no string makes both terminal transitions raise. -/
theorem exec_without_reason (allowed : List SessionStatus) (message : PyStr)
    (rest : Method Unit) : ∃ e, (do
      requireStatus allowed message
      validateTerminalValues endedAt none
      rest).exec s = (.error e, s) := by
  obtain ⟨e, he⟩ := exec_validate_none s endedAt
  unfold requireStatus
  simp only [exec_bind, exec_check]
  split_ifs with h
  · dsimp only
    rw [he]
    exact ⟨e, rfl⟩
  · exact ⟨_, rfl⟩

end Mutators

section Step

variable {s t : Session} {c : Call}

/-- The identity of a session and its start. -/
structure SameSession (s t : Session) : Prop where
  id : t.id = s.id
  requestId : t.requestId = s.requestId
  userId : t.userId = s.userId
  targetId : t.targetId = s.targetId
  accountId : t.accountId = s.accountId
  startedAt : t.startedAt = s.startedAt

/-- The moves of the status. -/
inductive Moves : SessionStatus → SessionStatus → Prop where
  | activate : Moves .opening .active
  | failOpening : Moves .opening .failed
  | failActive : Moves .active .failed
  | close : Moves .active .closed

def Terminal (status : SessionStatus) : Prop := status = .closed ∨ status = .failed

/-- What the constructor demands of the fields. -/
structure Valid (s : Session) : Prop where
  id_nonblank : blank s.id = false
  requestId_nonblank : blank s.requestId = false
  userId_nonblank : blank s.userId = false
  targetId_nonblank : blank s.targetId = false
  accountId_nonblank : blank s.accountId = false
  startedAt_aware : s.startedAt.aware = true
  unended : s.status = .opening ∨ s.status = .active → s.endedAt = none ∧ s.closeReason = none
  ended : Terminal s.status → ∃ endedAt reason, s.endedAt = some endedAt ∧ endedAt.aware = true ∧
    endedAt.lt? s.startedAt = some false ∧ s.closeReason = some reason ∧ blank reason = false

theorem postInit_ok_iff : s.postInit = .ok t ↔ t = s ∧ Valid s := by
  have hend (u : Unit) : s.requireEnd = .ok u ↔ ∀ endedAt, s.endedAt = some endedAt →
      endedAt.aware = true ∧ endedAt.lt? s.startedAt = some false := by
    unfold Session.requireEnd
    cases s.endedAt with
    | none => simp
    | some endedAt =>
      simp [except_bind_ok_iff, requireAware_ok_iff, Session.requireNotBeforeStart_ok_iff]
  have hstatus (u : Unit) : s.requireStatusFields = .ok u ↔
      (s.status = .opening ∨ s.status = .active → s.endedAt = none ∧ s.closeReason = none) ∧
        (Terminal s.status → s.endedAt ≠ none ∧
          ∃ reason, s.closeReason = some reason ∧ blank reason = false) := by
    unfold Session.requireStatusFields requireReason Terminal
    cases s.status <;> cases s.endedAt <;> cases s.closeReason <;> simp [requireNonblank_ok_iff]
  have hids (u : Unit) : s.requireIds = .ok u ↔ blank s.id = false ∧ blank s.requestId = false ∧
      blank s.userId = false ∧ blank s.targetId = false ∧ blank s.accountId = false := by
    simp [Session.requireIds, except_bind_ok_iff, requireNonblank_ok_iff]
  simp only [Session.postInit, except_bind_ok_iff, requireAware_ok_iff, pure, Except.pure,
    Except.ok.injEq, exists_const, hids, hend, hstatus]
  constructor
  · intro h
    obtain ⟨⟨hid, hrequest, huser, htarget, haccount⟩, haware, hend, ⟨hopen, hdone⟩, rfl⟩ := h
    refine ⟨rfl, ⟨hid, hrequest, huser, htarget, haccount, haware, hopen, fun hterminal => ?_⟩⟩
    obtain ⟨hended, reason, hreason, hblank⟩ := hdone hterminal
    obtain ⟨endedAt, he⟩ := Option.ne_none_iff_exists'.mp hended
    obtain ⟨ha, hle⟩ := hend endedAt he
    exact ⟨endedAt, reason, he, ha, hle, hreason, hblank⟩
  · intro h
    obtain ⟨rfl, hv⟩ := h
    refine ⟨⟨hv.id_nonblank, hv.requestId_nonblank, hv.userId_nonblank, hv.targetId_nonblank,
      hv.accountId_nonblank⟩, hv.startedAt_aware, fun endedAt he => ?_, ⟨hv.unended, ?_⟩, rfl⟩
    · have hterminal : Terminal t.status := by
        cases hs : t.status with
        | opening => simp [(hv.unended (.inl hs)).1] at he
        | active => simp [(hv.unended (.inr hs)).1] at he
        | closed => exact .inl rfl
        | failed => exact .inr rfl
      obtain ⟨d, reason, hd, ha, hle, -⟩ := hv.ended hterminal
      cases hd.symm.trans he
      exact ⟨ha, hle⟩
    · intro hterminal
      obtain ⟨d, reason, hd, -, -, hreason, hblank⟩ := hv.ended hterminal
      exact ⟨by simp [hd], reason, hreason, hblank⟩

/-- What a call that returns does to the fields. -/
inductive Step (s : Session) : Session → Prop where
  | activate (h : s.status = .opening) : Step s { s with status := .active }
  | fail (endedAt : DateTime) (reason : PyStr) (h : s.status = .opening ∨ s.status = .active)
      (hvalues : s.Acceptable endedAt reason) :
      Step s { s with status := .failed, endedAt := some endedAt, closeReason := some reason }
  | close (endedAt : DateTime) (reason : PyStr) (h : s.status = .active)
      (hvalues : s.Acceptable endedAt reason) :
      Step s { s with status := .closed, endedAt := some endedAt, closeReason := some reason }

/-- A call either takes a step, or it raises and changes no field. -/
theorem apply_cases (c : Call) (s : Session) :
    (∃ t, c.apply s = (.ok (), t) ∧ Step s t) ∨ ∃ e, c.apply s = (.error e, s) := by
  have hcases : (∃ r, c.apply s = outcome s r ∧ ∀ t, r = .ok t → Step s t) ∨
      ∃ e, c.apply s = (.error e, s) := by
    cases c with
    | markActive =>
      have happly : Call.markActive.apply s = outcome s s.markActive := exec_markActive s
      refine .inl ⟨_, happly, fun t h => ?_⟩
      obtain ⟨hs, rfl⟩ := (Session.markActive_ok_iff s t).mp h
      exact .activate hs
    | markFailed endedAt reason =>
      cases reason with
      | none => exact .inr (exec_without_reason s endedAt _ _ _)
      | some reason =>
        have happly : (Call.markFailed endedAt (some reason)).apply s =
            outcome s (s.markFailed endedAt reason) := exec_markFailed s endedAt reason
        refine .inl ⟨_, happly, fun t h => ?_⟩
        obtain ⟨hs, hvalues, rfl⟩ := (Session.markFailed_ok_iff s t endedAt reason).mp h
        exact .fail endedAt reason hs hvalues
    | markClosed endedAt reason =>
      cases reason with
      | none => exact .inr (exec_without_reason s endedAt _ _ _)
      | some reason =>
        have happly : (Call.markClosed endedAt (some reason)).apply s =
            outcome s (s.markClosed endedAt reason) := exec_markClosed s endedAt reason
        refine .inl ⟨_, happly, fun t h => ?_⟩
        obtain ⟨hs, hvalues, rfl⟩ := (Session.markClosed_ok_iff s t endedAt reason).mp h
        exact .close endedAt reason hs hvalues
  rcases hcases with ⟨r, hr, hstep⟩ | hraise
  · cases r with
    | ok t => exact .inl ⟨t, hr, hstep t rfl⟩
    | error e => exact .inr ⟨e, hr⟩
  · exact .inr hraise

theorem Step.same (h : Step s t) : SameSession s t := by
  cases h <;> exact ⟨rfl, rfl, rfl, rfl, rfl, rfl⟩

theorem Step.moves (h : Step s t) : Moves s.status t.status := by
  cases h with
  | activate hs =>
    rw [hs]
    exact .activate
  | fail endedAt reason hs hvalues =>
    rcases hs with hs | hs
    · rw [hs]
      exact .failOpening
    · rw [hs]
      exact .failActive
  | close endedAt reason hs hvalues =>
    rw [hs]
    exact .close

theorem Step.valid (h : Step s t) (hv : Valid s) : Valid t := by
  obtain ⟨hid, hrequest, huser, htarget, haccount, haware, hopen, hended⟩ := hv
  cases h with
  | activate hs =>
    exact ⟨hid, hrequest, huser, htarget, haccount, haware, fun _ => hopen (.inl hs),
      by simp [Terminal]⟩
  | fail endedAt reason hs hvalues =>
    obtain ⟨ha, hle, hblank⟩ := hvalues
    exact ⟨hid, hrequest, huser, htarget, haccount, haware, by simp,
      fun _ => ⟨endedAt, reason, rfl, ha, hle, rfl, hblank⟩⟩
  | close endedAt reason hs hvalues =>
    obtain ⟨ha, hle, hblank⟩ := hvalues
    exact ⟨hid, hrequest, huser, htarget, haccount, haware, by simp,
      fun _ => ⟨endedAt, reason, rfl, ha, hle, rfl, hblank⟩⟩

theorem not_step_of_terminal (h : Terminal s.status) : ¬ Step s t := by
  intro hstep
  have hmoves := hstep.moves
  rcases h with h | h <;> rw [h] at hmoves <;> cases hmoves

end Step

section Run

theorem SameSession.refl (s : Session) : SameSession s s := ⟨rfl, rfl, rfl, rfl, rfl, rfl⟩

theorem SameSession.trans {s t u : Session} (h : SameSession s t) (h' : SameSession t u) :
    SameSession s u :=
  ⟨h'.id.trans h.id, h'.requestId.trans h.requestId, h'.userId.trans h.userId,
    h'.targetId.trans h.targetId, h'.accountId.trans h.accountId, h'.startedAt.trans h.startedAt⟩

/-- Whatever is called on a valid session leaves a valid session of the same identity. -/
theorem after_kept {s : Session} (hv : Valid s) (calls : List Call) :
    Valid (after s calls) ∧ SameSession s (after s calls) ∧
      Relation.ReflTransGen Moves s.status (after s calls).status := by
  induction calls generalizing s with
  | nil => exact ⟨hv, .refl s, .refl⟩
  | cons c calls ih =>
    rcases apply_cases c s with ⟨t, happly, hstep⟩ | ⟨e, happly⟩
    · have hafter : after s (c :: calls) = after t calls := by simp [after, happly]
      obtain ⟨hvalid, hsame, hmoves⟩ := ih (hstep.valid hv)
      rw [hafter]
      exact ⟨hvalid, hstep.same.trans hsame, hmoves.head hstep.moves⟩
    · have hafter : after s (c :: calls) = after s calls := by simp [after, happly]
      rw [hafter]
      exact ih hv

/-- Over every run of calls on a constructed session the constructor's checks keep
passing, the identity and the start stay, the status only takes the allowed moves,
a call that raises changes no field, and a terminal session refuses every call. -/
theorem runs_keep_invariant {s₀ s : Session} (h : s₀.postInit = .ok s) (calls : List Call) :
    (after s calls).postInit = .ok (after s calls) ∧ Valid (after s calls) ∧
      SameSession s (after s calls) ∧
      Relation.ReflTransGen Moves s.status (after s calls).status ∧
      ∀ c : Call,
        (∀ t, c.apply (after s calls) = (.ok (), t) → Moves (after s calls).status t.status) ∧
        (∀ e t, c.apply (after s calls) = (.error e, t) → t = after s calls) ∧
        (Terminal (after s calls).status →
          ∃ e, c.apply (after s calls) = (.error e, after s calls)) := by
  obtain ⟨rfl, hv⟩ := postInit_ok_iff.mp h
  obtain ⟨hvalid, hsame, hmoves⟩ := after_kept hv calls
  refine ⟨postInit_ok_iff.mpr ⟨rfl, hvalid⟩, hvalid, hsame, hmoves, fun c => ?_⟩
  rcases apply_cases c (after s calls) with ⟨t, happly, hstep⟩ | ⟨e, happly⟩
  · rw [happly]
    refine ⟨fun u hu => ?_, fun e u hu => ?_, fun hterminal => ?_⟩
    · cases hu
      exact hstep.moves
    · cases hu
    · exact absurd hstep (not_step_of_terminal hterminal)
  · rw [happly]
    refine ⟨fun u hu => ?_, fun e' u hu => ?_, fun _ => ⟨e, rfl⟩⟩
    · cases hu
    · cases hu
      rfl

def exampleSession : Session :=
  { id := py "s-1"
    requestId := py "r-1"
    userId := py "alice"
    targetId := py "db"
    accountId := py "root"
    status := .opening
    startedAt := .utc daySize (by decide)
    endedAt := none
    closeReason := none }

/-- A naive end is refused, a later aware one ends the session for good. -/
def exampleCalls : List Call :=
  [.markActive,
    .markClosed ⟨daySize + 1, none, none, by decide, by decide, by simp, by simp⟩
      (some (py "done")),
    .markClosed (.utc (daySize + 1) (by decide)) (some (py "done")), .markActive]

theorem exampleSession_accepted : exampleSession.postInit = .ok exampleSession := by decide

theorem runs_keep_invariant_example :
    (after exampleSession exampleCalls).status = .closed ∧
      Valid (after exampleSession exampleCalls) :=
  ⟨by decide, (runs_keep_invariant exampleSession_accepted exampleCalls).2.1⟩

end Run

end PamMvp.SessionRuns
