import PamMvp.AccessHandling

/-!
# The audit trail of one access request

The persisted events of a run are read off its trace. Each part of `handle` has
one specification: what it appends, what it does to the session record, and why
it can raise. From these follow the two main results: the trail always agrees
with the returned result, and a session that was announced reaches its terminal
event exactly when no broker call was interrupted.
-/
namespace PamMvp.AccessAuditTrail
open InteractionPrograms PythonText DateTimes DomainModel SessionLifecycle PamCalls AccessHandling

def persistedOne : PamEvent → Option AuditEvent
  | ⟨.append event, .ok _⟩ => some event
  | _ => none

/-- The events that the audit repository accepted, in order. -/
def persisted (tr : List PamEvent) : List AuditEvent := tr.filterMap persistedOne

def faultyOne : PamEvent → Bool
  | ⟨.append _, .error _⟩ | ⟨.newId, .error _⟩ | ⟨.now, .error _⟩ => true
  | ⟨.now, .ok d⟩ => !d.aware
  | _ => false

/-- Some append, identifier or clock reading failed. -/
def faulty (tr : List PamEvent) : Bool := tr.any faultyOne

def interruptedOne : PamEvent → Bool
  | ⟨.openSession _ _ _, .error e⟩ | ⟨.relay _, .error e⟩ | ⟨.closeSession, .error e⟩ =>
    !PyExn.isException e
  | _ => false

/-- A `KeyboardInterrupt` was delivered inside a broker call. -/
def interrupted (tr : List PamEvent) : Bool := tr.any interruptedOne

@[simp] theorem persisted_nil : persisted [] = [] := rfl

@[simp] theorem persisted_cons (ev : PamEvent) (tr : List PamEvent) :
    persisted (ev :: tr) = (persistedOne ev).toList ++ persisted tr := by
  cases h : persistedOne ev <;> simp [persisted, h]

@[simp] theorem persisted_append (tr tr' : List PamEvent) :
    persisted (tr ++ tr') = persisted tr ++ persisted tr' := by simp [persisted]

@[simp] theorem faulty_nil : faulty [] = false := rfl

@[simp] theorem faulty_cons (ev : PamEvent) (tr : List PamEvent) :
    faulty (ev :: tr) = (faultyOne ev || faulty tr) := rfl

@[simp] theorem faulty_append (tr tr' : List PamEvent) :
    faulty (tr ++ tr') = (faulty tr || faulty tr') := by simp [faulty]

@[simp] theorem interrupted_nil : interrupted [] = false := rfl

@[simp] theorem interrupted_cons (ev : PamEvent) (tr : List PamEvent) :
    interrupted (ev :: tr) = (interruptedOne ev || interrupted tr) := rfl

@[simp] theorem interrupted_append (tr tr' : List PamEvent) :
    interrupted (tr ++ tr') = (interrupted tr || interrupted tr') := by simp [interrupted]

/-- The record and the event of one terminal transition agree. -/
structure Matches (s : Session) (ev : AuditEvent) : Prop where
  status : (s.status = .closed ∧ ev.eventType = .sessionClosed) ∨
    (s.status = .failed ∧ ev.eventType = .sessionFailed)
  sessionId : ev.sessionId = some s.id
  endedAt : s.endedAt = some ev.timestamp
  notBeforeStart : ev.timestamp.lt? s.startedAt = some false
  closeReason : s.closeReason.isSome = true ∧ s.closeReason = ev.reasonCode

theorem postInit_ok_iff (ev ev' : AuditEvent) :
    ev.postInit = .ok ev' ↔ ev.timestamp.aware = true ∧ ev' = ev := by
  unfold AuditEvent.postInit
  cases ev.timestamp.aware <;> simp [eq_comm]

theorem postInit_error {ev : AuditEvent} {e : PyExn} (h : ev.postInit = .error e) :
    ev.timestamp.aware = false := by
  unfold AuditEvent.postInit at h
  cases ha : ev.timestamp.aware <;> simp_all

section

variable (request : AccessRequest) (eventType : AuditEventType) (sessionId : Option PyStr)
  (result : PyStr) (reasonCode actorUserId : Option PyStr)

/-- An append either records exactly the event asked for, or records nothing and
the identifier, the clock or the repository failed. -/
theorem appendEvent_ensures (timestamp : Option DateTime) (m : Memory)
    (ht : ∀ t, timestamp = some t → t.aware = true) :
    (appendEvent request eventType sessionId result reasonCode actorUserId timestamp).Ensures m
      fun tr o m' => m' = m ∧ interrupted tr = false ∧
      ((∃ ev, o = .ret () ∧ persisted tr = [ev] ∧ ev.eventType = eventType ∧
        ev.sessionId = sessionId ∧ ev.reasonCode = reasonCode ∧
        ∀ t, timestamp = some t → ev.timestamp = t) ∨
      ∃ e, o = .raise e ∧ persisted tr = [] ∧ faulty tr = true) := by
  cases timestamp with
  | none =>
    simp [appendEvent, timestampOr, Prog.Then, ensures_ask .now, ensures_ask .newId,
      ensures_ask (.append _), ensures_lift, persistedOne, faultyOne, interruptedOne,
      postInit_ok_iff]
    intro id t e he
    exact postInit_error he
  | some t =>
    have ha := ht t rfl
    simp [appendEvent, timestampOr, Prog.Then, ensures_ask .newId, ensures_ask (.append _),
      ensures_lift, persistedOne, faultyOne, interruptedOne, AuditEvent.postInit, ha]

end

/-- The clamped timestamp is not before the start, whatever the two zones are. -/
theorem clamp_ok {observed started t : DateTime} (h : clamp observed started = .ok t) :
    (t = observed ∨ t = started) ∧ t.lt? started = some false := by
  unfold clamp before at h
  cases hlt : observed.lt? started with
  | none => simp [hlt, bind, Except.bind] at h
  | some earlier =>
    cases earlier with
    | true =>
      simp [hlt, bind, Except.bind, pure, Except.pure] at h
      simp [← h]
    | false =>
      simp [hlt, bind, Except.bind, pure, Except.pure] at h
      simp [← h, hlt]

theorem clamp_aware {observed started : DateTime} (hs : started.aware = true)
    (ho : observed.aware = true) : ∃ t, clamp observed started = .ok t := by
  obtain ⟨earlier, hlt⟩ := DateTime.lt?_aware ho hs
  cases earlier with
  | true => exact ⟨started, by simp [clamp, before, hlt, bind, Except.bind, pure, Except.pure]⟩
  | false => exact ⟨observed, by simp [clamp, before, hlt, bind, Except.bind, pure, Except.pure]⟩

theorem terminalTimestamp_ensures {m : Memory} {s : Session} (hm : m.session = some s)
    (hs : s.startedAt.aware = true) :
    terminalTimestamp.Ensures m fun tr o m' => m' = m ∧ persisted tr = [] ∧ interrupted tr = false ∧
      ((∃ t, o = .ret t ∧ t.lt? s.startedAt = some false ∧
          (t.aware = true ∨ faulty tr = true)) ∨
        ∃ e, o = .raise e ∧ faulty tr = true) := by
  simp only [terminalTimestamp, currentSession, Prog.ensures_bind', ensures_ask .now, Prog.Then,
    Prog.ensures_memory, hm, Prog.ensures_pure, ensures_lift]
  simp [persistedOne, interruptedOne, faultyOne]
  intro observed
  cases ht : clamp observed s.startedAt with
  | ok t =>
    obtain ⟨rfl | rfl, hle⟩ := clamp_ok ht
    · cases ha : DateTime.aware t <;> simp [ha, hle]
    · simp [hs]
  | error e =>
    cases ha : DateTime.aware observed with
    | true =>
      obtain ⟨t, hok⟩ := clamp_aware hs ha
      cases ht.symm.trans hok
    | false => simp

theorem transition_ensures {m : Memory} {s : Session} (hm : m.session = some s)
    (mutator : Session → Except PyExn Session) :
    (transition mutator).Ensures m fun tr o m' => tr = [] ∧
      ((∃ t, mutator s = .ok t ∧ o = .ret () ∧ m' = { m with session := some t }) ∨
        ∃ e, mutator s = .error e ∧ o = .raise e ∧ m' = m) := by
  simp only [transition, currentSession, Prog.ensures_bind', Prog.Then, Prog.ensures_memory, hm,
    Prog.ensures_pure, ensures_lift]
  cases mutator s <;> simp

/-- A mutator that gives the session the terminal status `status` exactly when the
values are acceptable. -/
def Terminates (mutator : DateTime → Session → Except PyExn Session) (s : Session)
    (status : SessionStatus) (reason : PyStr) : Prop :=
  ∀ t s', mutator t s = .ok s' ↔ s.Acceptable t reason ∧
    s' = { s with status := status, endedAt := some t, closeReason := some reason }

/-- A terminal step either ends the session and records the matching event, or
records nothing because the identifier, the clock or the repository failed. -/
theorem terminate_ensures {m : Memory} {s : Session} {status : SessionStatus} {reason : PyStr}
    {mutator : DateTime → Session → Except PyExn Session} {eventType : AuditEventType}
    (hm : m.session = some s) (hs : s.startedAt.aware = true) (hr : blank reason = false)
    (hmut : Terminates mutator s status reason)
    (hstatus : (status = .closed ∧ eventType = .sessionClosed) ∨
      (status = .failed ∧ eventType = .sessionFailed))
    (request : AccessRequest) (result : PyStr) :
    (terminate mutator request eventType result reason).Ensures m fun tr o m' =>
      interrupted tr = false ∧
      ((∃ s' ev, o = .ret () ∧ m'.session = some s' ∧ s'.id = s.id ∧ persisted tr = [ev] ∧
        ev.eventType = eventType ∧ Matches s' ev) ∨
      ∃ e, o = .raise e ∧ persisted tr = [] ∧ faulty tr = true) := by
  refine (terminalTimestamp_ensures hm hs).bind ?_ ?_
  · rintro tr t m₁ ⟨rfl, hp, hi, h | ⟨e, he, -⟩⟩
    · obtain ⟨t', ht, hle, hta⟩ := h
      cases ht
      refine (transition_ensures hm (mutator t)).bind ?_ ?_
      · rintro tr₂ _ m₂ ⟨rfl, ⟨s', hs', -, rfl⟩ | ⟨e, -, he, -⟩⟩
        · obtain ⟨⟨haware, -⟩, rfl⟩ := (hmut t s').mp hs'
          simp only [currentSession, Prog.ensures_bind', Prog.Then, Prog.ensures_memory,
            Prog.ensures_pure]
          refine (appendEvent_ensures request eventType _ result (some reason) none (some t)
            _ ?_).mono ?_
          · rintro _ ⟨⟩
            exact haware
          · rintro tr₃ o m₃ ⟨rfl, hi₃, ⟨ev, rfl, hp₃, hty, hid, hrc, hts⟩ | ⟨e, rfl, hp₃, hf₃⟩⟩
            · have hev : ev.timestamp = t := hts t rfl
              refine ⟨by simp [hi, hi₃], .inl ⟨_, ev, rfl, rfl, rfl, by simp [hp, hp₃], hty, ?_⟩⟩
              exact ⟨by simpa [hty] using hstatus, hid, by rw [hev], by rw [hev]; exact hle,
                ⟨rfl, hrc.symm⟩⟩
            · exact ⟨by simp [hi, hi₃], .inr ⟨e, rfl, by simp [hp, hp₃], by simp [hf₃]⟩⟩
        · cases he
      · rintro tr₂ e m₂ ⟨rfl, ⟨s', -, he, -⟩ | ⟨e', herror, -, -⟩⟩
        · cases he
        · -- a refused timestamp can only be a naive one
          rcases hta with hta | hf
          · cases herror.symm.trans ((hmut t _).mpr ⟨⟨hta, hle, hr⟩, rfl⟩)
          · exact ⟨by simp [hi], .inr ⟨e, rfl, by simp [hp], by simp [hf]⟩⟩
    · cases he
  · rintro tr e m₁ ⟨-, hp, hi, ⟨t, ht, -⟩ | ⟨e', -, hf⟩⟩
    · cases ht
    · exact ⟨hi, .inr ⟨e, rfl, hp, hf⟩⟩

/-- Events of the given types, all of one session. -/
def Lifecycle (sid : PyStr) (types : List AuditEventType) (evs : List AuditEvent) : Prop :=
  evs.map (·.eventType) = types ∧ ∀ ev ∈ evs, ev.sessionId = some sid

theorem lifecycle_nil (sid : PyStr) : Lifecycle sid [] [] := ⟨rfl, by simp⟩

theorem lifecycle_single {sid : PyStr} {ev : AuditEvent} {eventType : AuditEventType}
    (ht : ev.eventType = eventType) (hid : ev.sessionId = some sid) :
    Lifecycle sid [eventType] [ev] := ⟨by simp [ht], by simp [hid]⟩

theorem Lifecycle.append {sid : PyStr} {types types' : List AuditEventType}
    {evs evs' : List AuditEvent} (h : Lifecycle sid types evs) (h' : Lifecycle sid types' evs') :
    Lifecycle sid (types ++ types') (evs ++ evs') := by
  refine ⟨by simp [h.1, h'.1], ?_⟩
  intro ev hev
  rcases List.mem_append.mp hev with hev | hev
  · exact h.2 ev hev
  · exact h'.2 ev hev

/-- The handler of a failed append records nothing and raises. -/
theorem auditPersistenceFailed_ensures {α : Type} {m : Memory} {s : Session}
    (hm : m.session = some s) (hs : s.startedAt.aware = true) (e : PyExn) :
    (auditPersistenceFailed e : Pam α).Ensures m fun tr o _ =>
      persisted tr = [] ∧ interrupted tr = false ∧ ∃ e', o = .raise e' := by
  refine (terminalTimestamp_ensures hm hs).bind ?_ ?_
  · rintro tr t m₁ ⟨rfl, hp, hi, -⟩
    refine (transition_ensures hm _).bind ?_ ?_
    · rintro tr₂ _ m₂ ⟨rfl, -⟩
      simp [hp, hi]
    · rintro tr₂ e₂ m₂ ⟨rfl, -⟩
      simp [hp, hi]
  · rintro tr e₁ m₁ ⟨-, hp, hi, -⟩
    exact ⟨hp, hi, e₁, rfl⟩

/-- An append of the lifecycle with its handler: all events of `types`, or a
raised exception after a proper part of them. -/
theorem recorded_ensures {m : Memory} {s : Session} {p : Pam Unit}
    {types : List AuditEventType} (hm : m.session = some s) (hs : s.startedAt.aware = true)
    (hp : p.Ensures m fun tr o m' => m' = m ∧ interrupted tr = false ∧
      ((o = .ret () ∧ Lifecycle s.id types (persisted tr)) ∨
        ∃ e part, o = .raise e ∧ part <+: types ∧ part ≠ types ∧
          Lifecycle s.id part (persisted tr) ∧ faulty tr = true)) :
    (exceptException p auditPersistenceFailed).Ensures m fun tr o m' => interrupted tr = false ∧
      ((o = .ret () ∧ m' = m ∧ Lifecycle s.id types (persisted tr)) ∨
        ∃ e part, o = .raise e ∧ part <+: types ∧ part ≠ types ∧
          Lifecycle s.id part (persisted tr) ∧ faulty tr = true) := by
  refine ensures_exceptException hp ?_ ?_ ?_
  · rintro tr _ m' ⟨rfl, hi, ⟨-, hl⟩ | ⟨e, part, he, -⟩⟩
    · exact ⟨hi, .inl ⟨rfl, rfl, hl⟩⟩
    · cases he
  · rintro tr e m' ⟨rfl, hi, ⟨he, -⟩ | ⟨e', part, he, hrest⟩⟩ -
    · cases he
    · exact ⟨hi, .inr ⟨e, part, rfl, hrest⟩⟩
  · rintro tr e m' ⟨rfl, hi, ⟨he, -⟩ | ⟨e', part, -, hpre, hne, hl, hf⟩⟩ -
    · cases he
    · refine (auditPersistenceFailed_ensures hm hs e).mono ?_
      rintro tr' o m'' ⟨hp', hi', e'', rfl⟩
      exact ⟨by simp [hi, hi'], .inr ⟨e'', part, rfl, hpre, hne, by simpa [hp'] using hl,
        by simp [hf]⟩⟩

theorem appendActive_ensures {m : Memory} {s : Session} (hm : m.session = some s)
    (hs : s.startedAt.aware = true) (request : AccessRequest) :
    (appendActive request).Ensures m fun tr o m' => interrupted tr = false ∧
      ((o = .ret () ∧ m' = m ∧ Lifecycle s.id [.sessionActive] (persisted tr)) ∨
        ∃ e part, o = .raise e ∧ part <+: [.sessionActive] ∧ part ≠ [.sessionActive] ∧
          Lifecycle s.id part (persisted tr) ∧ faulty tr = true) := by
  refine recorded_ensures hm hs ?_
  simp only [currentSession, Prog.ensures_bind', Prog.Then, Prog.ensures_memory, hm,
    Prog.ensures_pure, List.nil_append]
  refine (appendEvent_ensures request _ _ _ _ _ none m (by simp)).mono ?_
  rintro tr o m' ⟨rfl, hi, ⟨ev, rfl, hp, hty, hid, -⟩ | ⟨e, rfl, hp, hf⟩⟩
  · exact ⟨rfl, hi, .inl ⟨rfl, by rw [hp]; exact lifecycle_single hty hid⟩⟩
  · exact ⟨rfl, hi, .inr
      ⟨e, [], rfl, List.nil_prefix, by simp, by rw [hp]; exact lifecycle_nil _, hf⟩⟩

theorem appendOpening_ensures {m : Memory} {s : Session} (hm : m.session = some s)
    (hs : s.startedAt.aware = true) (request : AccessRequest) (decision : AccessDecision) :
    (appendOpening request decision).Ensures m fun tr o m' => interrupted tr = false ∧
      ((o = .ret () ∧ m' = m ∧
        Lifecycle s.id [.accessAllowed, .sessionOpening] (persisted tr)) ∨
      ∃ e part, o = .raise e ∧ part <+: [.accessAllowed, .sessionOpening] ∧
        part ≠ [.accessAllowed, .sessionOpening] ∧ Lifecycle s.id part (persisted tr) ∧
        faulty tr = true) := by
  refine recorded_ensures hm hs ?_
  simp only [currentSession, Prog.ensures_bind', Prog.Then, Prog.ensures_memory, hm,
    Prog.ensures_pure, List.nil_append]
  refine (appendEvent_ensures request _ _ _ _ _ none m (by simp)).mono ?_
  rintro tr o m' ⟨rfl, hi, ⟨ev, rfl, hp, hty, hid, -⟩ | ⟨e, rfl, hp, hf⟩⟩
  · refine (appendEvent_ensures request _ _ _ _ _ none m' (by simp)).mono ?_
    rintro tr₂ o m₂ ⟨rfl, hi₂, ⟨ev₂, rfl, hp₂, hty₂, hid₂, -⟩ | ⟨e, rfl, hp₂, hf₂⟩⟩
    · refine ⟨rfl, by simp [hi, hi₂], .inl ⟨rfl, ?_⟩⟩
      rw [persisted_append, hp, hp₂]
      exact (lifecycle_single hty hid).append (lifecycle_single hty₂ hid₂)
    · refine ⟨rfl, by simp [hi, hi₂],
        .inr ⟨e, [.accessAllowed], rfl, by simp, by simp, ?_, by simp [hf₂]⟩⟩
      rw [persisted_append, hp, hp₂]
      exact lifecycle_single hty hid
  · exact ⟨rfl, hi, .inr
      ⟨e, [], rfl, List.nil_prefix, by simp, by rw [hp]; exact lifecycle_nil _, hf⟩⟩

/-- The access service over a broker that is known by its port only. -/
def portService (maxSessionDuration : ℤ) (h : 0 < maxSessionDuration) : AccessService :=
  ⟨portBroker, maxSessionDuration, h⟩

section

variable (d : ℤ) (hd : 0 < d) (terminal : TerminalIO) {m : Memory} {s : Session}

/-- What a guarded broker call does to the audit log: nothing. It only raises
when it was interrupted. -/
def Undisturbed {α : Type} (m : Memory) (tr : List PamEvent) (o : PamOutcome α) (m' : Memory) :
    Prop :=
  m'.session = m.session ∧ persisted tr = [] ∧
    ((∃ r, o = .ret r ∧ interrupted tr = false) ∨ ∃ e, o = .raise e ∧ interrupted tr = true)

theorem swallowed_ensures {α : Type} {p : Pam α} {a : α}
    (hp : p.Ensures m fun tr o m' => m'.session = m.session ∧ persisted tr = [] ∧
      ((∃ r, o = .ret r ∧ interrupted tr = false) ∨
        ∃ e, o = .raise e ∧ interrupted tr = !PyExn.isException e)) :
    (exceptException p fun _ => return a).Ensures m (Undisturbed m) := by
  refine ensures_exceptException hp ?_ ?_ ?_
  · rintro tr r m' ⟨hm, hp, ⟨r', -, hi⟩ | ⟨e, he, -⟩⟩
    · exact ⟨hm, hp, .inl ⟨r, rfl, hi⟩⟩
    · cases he
  · rintro tr e m' ⟨hm, hp, ⟨r, hr, -⟩ | ⟨e', he, hi⟩⟩ hexc
    · cases hr
    · cases he
      exact ⟨hm, hp, .inr ⟨e, rfl, by simp [hi, hexc]⟩⟩
  · rintro tr e m' ⟨hm, hp, ⟨r, hr, -⟩ | ⟨e', he, hi⟩⟩ hexc
    · cases hr
    · cases he
      simp [Undisturbed, hm, hp, hi, hexc]

theorem relayOutcome_ensures (m : Memory) :
    ((portService d hd).relayOutcome () terminal).Ensures m (Undisturbed m) := by
  refine swallowed_ensures (Prog.Ensures.bind ((ensures_ask (.relay d) m
    (fun tr o m' => m' = m ∧ persisted tr = [] ∧ ((∃ a, o = .ret a ∧ interrupted tr = false) ∨
      ∃ e, o = .raise e ∧ interrupted tr = !PyExn.isException e))).mpr ?_) ?_ ?_)
  · simp [persistedOne, interruptedOne]
  · rintro tr r m' ⟨rfl, hp, ⟨a, -, hi⟩ | ⟨e, he, -⟩⟩
    · cases r with
      | some outcome => simp [hp, hi]
      | none => simp [hp, hi, raised, PyExn.isException]
    · cases he
  · rintro tr e m' ⟨rfl, hp, ⟨a, ha, -⟩ | ⟨e', he, hi⟩⟩
    · cases ha
    · cases he
      exact ⟨rfl, hp, .inr ⟨e, rfl, hi⟩⟩

theorem closeBrokered_ensures (m : Memory) :
    ((portService d hd).closeBrokered ()).Ensures m (Undisturbed m) := by
  refine swallowed_ensures ?_
  simp [portService, portBroker, ensures_ask .closeSession, Prog.Then, persistedOne, interruptedOne]

/-- The relay phase ends with the session active and one event recorded, unless
an append failed or a broker call was interrupted. -/
theorem relaySession_ensures (hm : m.session = some s) (ho : s.status = .opening)
    (hs : s.startedAt.aware = true) (request : AccessRequest) :
    ((portService d hd).relaySession request () terminal).Ensures m fun tr o m' =>
      (∃ r, o = .ret r ∧ m'.session = some { s with status := .active } ∧
        Lifecycle s.id [.sessionActive] (persisted tr) ∧ interrupted tr = false) ∨
      ∃ e part, o = .raise e ∧ part <+: [.sessionActive] ∧ Lifecycle s.id part (persisted tr) ∧
        (faulty tr = true ∨ interrupted tr = true) := by
  have hactive : s.markActive = .ok { s with status := .active } :=
    (Session.markActive_ok_iff s _).mpr ⟨ho, rfl⟩
  refine Prog.Ensures.tryFinally (P := fun tr o m' =>
    (∃ r, o = .ret r ∧ m'.session = some { s with status := .active } ∧
      Lifecycle s.id [.sessionActive] (persisted tr) ∧ interrupted tr = false) ∨
    ∃ e part, o = .raise e ∧ part <+: [.sessionActive] ∧ Lifecycle s.id part (persisted tr) ∧
      (faulty tr = true ∨ interrupted tr = true)) ?_ ?_
  · refine (transition_ensures hm (·.markActive)).bind ?_ ?_
    · rintro tr _ m₁ ⟨rfl, ⟨t, ht, -, rfl⟩ | ⟨e, he, -⟩⟩
      · cases hactive.symm.trans ht
        refine (appendActive_ensures (s := { s with status := .active }) rfl hs request).bind ?_ ?_
        · rintro tr₂ _ m₂ ⟨hi, ⟨-, rfl, hl⟩ | ⟨e, part, he, -⟩⟩
          · refine (relayOutcome_ensures d hd terminal _).mono ?_
            rintro tr₃ o m₃ ⟨hm₃, hp, ⟨r, rfl, hi₃⟩ | ⟨e, rfl, hi₃⟩⟩
            · exact .inl ⟨r, rfl, hm₃, by simpa [hp] using hl, by simp [hi, hi₃]⟩
            · exact .inr ⟨e, _, rfl, List.prefix_rfl, by simpa [hp] using hl, .inr (by simp [hi₃])⟩
          · cases he
        · rintro tr₂ e m₂ ⟨hi, ⟨he, -⟩ | ⟨e', part, -, hpre, -, hl, hf⟩⟩
          · cases he
          · exact .inr ⟨e, part, rfl, hpre, by simpa using hl, .inl (by simpa using hf)⟩
      · cases hactive.symm.trans he
    · rintro tr e m₁ ⟨rfl, ⟨t, -, he, -⟩ | ⟨e', he, -⟩⟩
      · cases he
      · cases hactive.symm.trans he
  · rintro tr o m' ho'
    refine (closeBrokered_ensures d hd m').mono ?_
    rintro tr' o' m'' ⟨hm'', hp, ⟨_, rfl, hi⟩ | ⟨e, rfl, hi⟩⟩
    · rcases ho' with ⟨r, rfl, hm', hl, hi'⟩ | ⟨e, part, rfl, hpre, hl, hfi⟩
      · exact .inl ⟨r, rfl, hm''.trans hm', by simpa [hp] using hl, by simp [hi, hi']⟩
      · exact .inr ⟨e, part, rfl, hpre, by simpa [hp] using hl,
          by simpa [hi] using Or.imp_left .inl hfi⟩
    · rcases ho' with ⟨r, rfl, hm', hl, hi'⟩ | ⟨e', part, rfl, hpre, hl, hfi⟩
      · exact .inr ⟨e, _, rfl, List.prefix_rfl, by simpa [hp] using hl, .inr (by simp [hi])⟩
      · exact .inr ⟨e, part, rfl, hpre, by simpa [hp] using hl, .inr (by simp [hi])⟩

/-- What a terminal step of the session `s` leaves behind. -/
def Ended (s : Session) (types : List AuditEventType) (tr : List PamEvent) (o : PamOutcome Unit)
    (m' : Memory) : Prop :=
  interrupted tr = false ∧
    ((∃ s' ev, o = .ret () ∧ m'.session = some s' ∧ s'.id = s.id ∧ persisted tr = [ev] ∧
      ev.eventType ∈ types ∧ Matches s' ev) ∨
    ∃ e, o = .raise e ∧ persisted tr = [] ∧ faulty tr = true)

theorem failSession_ensures (hm : m.session = some s) (hs : s.startedAt.aware = true)
    (ho : s.status = .opening ∨ s.status = .active) (request : AccessRequest) {reason : PyStr}
    (hr : blank reason = false) :
    (failSession request reason).Ensures m (Ended s [.sessionFailed]) := by
  have hmut : Terminates (fun t s => s.markFailed t reason) s .failed reason :=
    fun t s' => (Session.markFailed_ok_iff s s' t reason).trans (by simp [ho])
  refine (terminate_ensures hm hs hr hmut (.inr ⟨rfl, rfl⟩) request _).mono ?_
  rintro tr o m' ⟨hi, ⟨s', ev, hret, hm', hid, hp, hty, hmat⟩ | hraise⟩
  · exact ⟨hi, .inl ⟨s', ev, hret, hm', hid, hp, by simp [hty], hmat⟩⟩
  · exact ⟨hi, .inr hraise⟩

theorem closeSession_ensures (hm : m.session = some s) (hs : s.startedAt.aware = true)
    (ho : s.status = .active) (request : AccessRequest) {reason : PyStr}
    (hr : blank reason = false) :
    (closeSession request reason).Ensures m (Ended s [.sessionClosed]) := by
  have hmut : Terminates (fun t s => s.markClosed t reason) s .closed reason :=
    fun t s' => (Session.markClosed_ok_iff s s' t reason).trans (by simp [ho])
  refine (terminate_ensures hm hs hr hmut (.inl ⟨rfl, rfl⟩) request _).mono ?_
  rintro tr o m' ⟨hi, ⟨s', ev, hret, hm', hid, hp, hty, hmat⟩ | hraise⟩
  · exact ⟨hi, .inl ⟨s', ev, hret, hm', hid, hp, by simp [hty], hmat⟩⟩
  · exact ⟨hi, .inr hraise⟩

theorem Ended.mono {types types' : List AuditEventType} {tr : List PamEvent} {o : PamOutcome Unit}
    {m' : Memory} (h : Ended s types tr o m') (hsub : ∀ t ∈ types, t ∈ types') :
    Ended s types' tr o m' := by
  obtain ⟨hi, ⟨s', ev, hret, hm', hid, hp, hty, hmat⟩ | hraise⟩ := h
  · exact ⟨hi, .inl ⟨s', ev, hret, hm', hid, hp, hsub _ hty, hmat⟩⟩
  · exact ⟨hi, .inr hraise⟩

theorem closeReasonOf_nonblank (outcome : RelayOutcome) :
    blank (closeReasonOf outcome) = false := by
  cases outcome <;> decide

theorem endSession_ensures (hm : m.session = some s) (hs : s.startedAt.aware = true)
    (ho : s.status = .active) (request : AccessRequest) (relayed : Option RelayOutcome) :
    (endSession request relayed).Ensures m (Ended s [.sessionFailed, .sessionClosed]) := by
  cases relayed with
  | none =>
    exact (failSession_ensures hm hs (.inr ho) request (by decide)).mono
      fun tr o m' h => h.mono (by simp)
  | some outcome =>
    simp only [endSession, Prog.ensures_bind', Prog.Then, Prog.ensures_memory, List.nil_append]
    cases m.closeSucceeded with
    | true =>
      exact (closeSession_ensures hm hs ho request (closeReasonOf_nonblank outcome)).mono
        fun tr o m' h => h.mono (by simp)
    | false =>
      exact (failSession_ensures hm hs (.inr ho) request (by decide)).mono
        fun tr o m' h => h.mono (by simp)

/-- The two ways to leave a session phase: it returns the ended session, whose
event is the last of a complete list of types, or it raises after a cut one. -/
def Concluded (decision : AccessDecision) (sid : PyStr) (complete cut : List (List AuditEventType))
    (tr : List PamEvent) (o : PamOutcome AccessResult) (m' : Memory) : Prop :=
  (∃ s' ev types, o = .ret ⟨decision, some s'⟩ ∧ m'.session = some s' ∧ s'.id = sid ∧
    (persisted tr).getLast? = some ev ∧ Matches s' ev ∧ types ∈ complete ∧
    Lifecycle sid types (persisted tr) ∧ interrupted tr = false) ∨
  ∃ e types, o = .raise e ∧ types ∈ cut ∧ Lifecycle sid types (persisted tr) ∧
    (faulty tr = true ∨ interrupted tr = true)

theorem runBrokered_ensures (hm : m.session = some s) (ho : s.status = .opening)
    (hs : s.startedAt.aware = true) (request : AccessRequest) (decision : AccessDecision) :
    ((portService d hd).runBrokered request decision () terminal).Ensures m
      (Concluded decision s.id [[.sessionActive, .sessionFailed], [.sessionActive, .sessionClosed]]
        [[], [.sessionActive]]) := by
  have hrelay := relaySession_ensures d hd terminal
    (m := { m with closeSucceeded := false }) hm ho hs request
  simp only [AccessService.runBrokered, Prog.ensures_bind' (Prog.modify _), Prog.ensures_modify,
    Prog.Then, List.nil_append]
  refine hrelay.bind ?_ ?_
  · rintro tr r m₁ (⟨r', -, hm₁, hl, hi⟩ | ⟨e, part, he, -⟩)
    · refine (endSession_ensures hm₁ hs rfl request r).bind ?_ ?_
      · rintro tr₂ _ m₂ ⟨hi₂, ⟨s', ev, -, hm₂, hid, hp, hty, hmat⟩ | ⟨e, he, -⟩⟩
        · simp only [currentSession, Prog.ensures_bind', Prog.Then, Prog.ensures_memory, hm₂,
            Prog.ensures_pure]
          refine .inl ⟨s', ev, [.sessionActive, ev.eventType], rfl, hm₂, hid, by simp [hp],
            hmat, by simpa using hty, ?_, by simp [hi, hi₂]⟩
          simpa [hp] using hl.append (lifecycle_single rfl (by simpa [hid] using hmat.sessionId))
        · cases he
      · rintro tr₂ e m₂ ⟨hi₂, ⟨s', ev, he, -⟩ | ⟨e', -, hp, hf⟩⟩
        · cases he
        · exact .inr ⟨e, [.sessionActive], rfl, by simp, by simpa [hp] using hl,
            .inl (by simp [hf])⟩
    · cases he
  · rintro tr e m₁ (⟨r, he, -⟩ | ⟨e', part, -, hpre, hl, hfi⟩)
    · cases he
    · refine .inr ⟨e, part, rfl, ?_, hl, hfi⟩
      rcases List.prefix_cons_iff.mp hpre with rfl | ⟨t, rfl, ht⟩
      · simp
      · simp [List.prefix_nil.mp ht]

/-- A broker that opened leaves the audit log alone; one that failed ends the
session. -/
theorem openBrokered_ensures (hm : m.session = some s) (ho : s.status = .opening)
    (hs : s.startedAt.aware = true) (request : AccessRequest) (target : Target)
    (account : PrivilegedAccount) (credential : BrokerCredential) :
    ((portService d hd).openBrokered request target account credential).Ensures m fun tr o m' =>
      (o = .ret (some ()) ∧ m' = m ∧ persisted tr = [] ∧ interrupted tr = false) ∨
      (∃ s' ev, o = .ret none ∧ m'.session = some s' ∧ s'.id = s.id ∧ persisted tr = [ev] ∧
        ev.eventType = .sessionFailed ∧ Matches s' ev ∧ interrupted tr = false) ∨
      ∃ e, o = .raise e ∧ persisted tr = [] ∧ (faulty tr = true ∨ interrupted tr = true) := by
  have hopen : (do return some (← (portService d hd).sessionBroker.openSession target account
      credential) : Pam (Option Unit)).Ensures m fun tr o m' => m' = m ∧ persisted tr = [] ∧
        ((o = .ret (some ()) ∧ interrupted tr = false) ∨
          ∃ e, o = .raise e ∧ interrupted tr = !PyExn.isException e) := by
    simp [-bind_pure_comp, portService, portBroker, ensures_ask (.openSession _ _ _), Prog.Then,
      persistedOne, interruptedOne]
  refine ensures_exceptException hopen ?_ ?_ ?_
  · rintro tr r m' ⟨rfl, hp, ⟨hr, hi⟩ | ⟨e, he, -⟩⟩
    · exact .inl ⟨hr, rfl, hp, hi⟩
    · cases he
  · rintro tr e m' ⟨rfl, hp, ⟨he, -⟩ | ⟨e', he, hi⟩⟩ hexc
    · cases he
    · cases he
      exact .inr (.inr ⟨e, rfl, hp, .inr (by simp [hi, hexc])⟩)
  · rintro tr e m' ⟨rfl, hp, ⟨he, -⟩ | ⟨e', he, hi⟩⟩ hexc
    · cases he
    · cases he
      refine (failSession_ensures hm hs (.inl ho) request (by decide)).bind ?_ ?_
      · rintro tr₂ _ m₂ ⟨hi₂, ⟨s', ev, -, hm₂, hid, hp₂, hty, hmat⟩ | ⟨e, he, -⟩⟩
        · rw [Prog.ensures_pure, List.append_nil]
          exact .inr (.inl ⟨s', ev, rfl, hm₂, hid, by simp [hp, hp₂], by simpa using hty, hmat,
            by simp [hi, hi₂, hexc]⟩)
        · cases he
      · rintro tr₂ e₂ m₂ ⟨hi₂, ⟨s', ev, he, -⟩ | ⟨e', -, hp₂, hf⟩⟩
        · cases he
        · exact .inr (.inr ⟨e₂, rfl, by simp [hp, hp₂], .inl (by simp [hf])⟩)

/-- The events of an allowed request up to its terminal event. -/
def completeTypes : List (List AuditEventType) :=
  [[.accessAllowed, .sessionOpening, .sessionFailed],
    [.accessAllowed, .sessionOpening, .sessionActive, .sessionFailed],
    [.accessAllowed, .sessionOpening, .sessionActive, .sessionClosed]]

def cutTypes : List (List AuditEventType) :=
  [[], [.accessAllowed], [.accessAllowed, .sessionOpening],
    [.accessAllowed, .sessionOpening, .sessionActive]]

/-- Events recorded before a session phase, in front of those of the phase. -/
theorem Concluded.prepend {decision : AccessDecision} {sid : PyStr}
    {complete cut complete' cut' : List (List AuditEventType)}
    {tr tr' : List PamEvent} {o : PamOutcome AccessResult} {m' : Memory}
    {types : List AuditEventType} (h : Concluded decision sid complete cut tr' o m')
    (hl : Lifecycle sid types (persisted tr)) (hi : interrupted tr = false)
    (hcomplete : ∀ ts ∈ complete, types ++ ts ∈ complete')
    (hcut : ∀ ts ∈ cut, types ++ ts ∈ cut') :
    Concluded decision sid complete' cut' (tr ++ tr') o m' := by
  rcases h with ⟨s', ev, ts, ho, hm', hid, hev, hmat, hts, hl', hi'⟩ | ⟨e, ts, ho, hts, hl', hfi⟩
  · refine .inl ⟨s', ev, types ++ ts, ho, hm', hid, ?_, hmat, hcomplete ts hts, ?_, ?_⟩
    · simp [hev]
    · simpa using hl.append hl'
    · simp [hi, hi']
  · refine .inr ⟨e, types ++ ts, ho, hcut ts hts, by simpa using hl.append hl', ?_⟩
    rcases hfi with hf | hi'
    · exact .inl (by simp [hf])
    · exact .inr (by simp [hi'])

theorem Concluded.after_silence {decision : AccessDecision} {sid : PyStr}
    {complete cut : List (List AuditEventType)}
    {tr tr' : List PamEvent} {o : PamOutcome AccessResult} {m' : Memory}
    (h : Concluded decision sid complete cut tr' o m') (hp : persisted tr = [])
    (hi : interrupted tr = false) : Concluded decision sid complete cut (tr ++ tr') o m' := by
  have hl : Lifecycle sid [] (persisted tr) := by rw [hp]; exact lifecycle_nil sid
  exact h.prepend hl hi (by simp) (by simp)

/-- From the opened record on, the log holds a prefix of one of the lifecycles. -/
theorem runSession_ensures (hm : m.session = some s) (ho : s.status = .opening)
    (hs : s.startedAt.aware = true) (request : AccessRequest) (decision : AccessDecision)
    (target : Target) (account : PrivilegedAccount) (credential : BrokerCredential) :
    ((portService d hd).runSession request decision target account credential terminal).Ensures m
      (Concluded decision s.id completeTypes cutTypes) := by
  refine (appendOpening_ensures hm hs request decision).bind ?_ ?_
  · rintro tr _ m₁ ⟨hi, ⟨-, rfl, hl⟩ | ⟨e, part, he, -⟩⟩
    · refine (openBrokered_ensures d hd hm ho hs request target account credential).bind ?_ ?_
      · rintro tr₂ r m₂ (⟨hr, rfl, hp, hi₂⟩ | ⟨s', ev, hr, hm₂, hid, hp, hty, hmat, hi₂⟩ |
          ⟨e, he, -⟩)
        · cases hr
          refine (runBrokered_ensures d hd terminal hm ho hs request decision).mono
            fun tr₃ o m₃ h => ?_
          exact (h.after_silence hp hi₂).prepend hl hi (by simp [completeTypes])
            (by simp [cutTypes])
        · cases hr
          simp only [currentSession, Prog.ensures_bind', Prog.Then, Prog.ensures_memory, hm₂,
            Prog.ensures_pure]
          refine .inl ⟨s', ev, [.accessAllowed, .sessionOpening, .sessionFailed], rfl, hm₂,
            hid, by simp [hp], hmat, by simp [completeTypes], ?_, by simp [hi, hi₂]⟩
          simpa [hp] using hl.append (lifecycle_single hty (by rw [hmat.sessionId, hid]))
        · cases he
      · rintro tr₂ e m₂ (⟨he, -⟩ | ⟨s', ev, he, -⟩ | ⟨e', -, hp, hfi⟩)
        · cases he
        · cases he
        · refine .inr ⟨e, [.accessAllowed, .sessionOpening], rfl, by simp [cutTypes],
            by simpa [hp] using hl, ?_⟩
          simpa [hi] using Or.imp_left .inr hfi
    · cases he
  · rintro tr e m₁ ⟨hi, ⟨he, -⟩ | ⟨e', part, -, hpre, hne, hl, hf⟩⟩
    · cases he
    · refine .inr ⟨e, part, rfl, ?_, hl, .inl hf⟩
      rcases List.prefix_cons_iff.mp hpre with rfl | ⟨t, rfl, ht⟩
      · simp [cutTypes]
      · rcases List.prefix_cons_iff.mp ht with rfl | ⟨t', rfl, ht'⟩
        · simp [cutTypes]
        · exact absurd (by rw [List.prefix_nil.mp ht']) hne

/-- Nothing was recorded and nothing is returned. -/
def Silent {α : Type} (tr : List PamEvent) (o : PamOutcome α) : Prop :=
  persisted tr = [] ∧ ∃ e, o = .raise e

theorem startSession_ensures (request : AccessRequest) (decision : AccessDecision)
    (target : Target) (account : PrivilegedAccount) (credential : BrokerCredential) (m : Memory) :
    ((portService d hd).startSession request decision target account credential terminal).Ensures m
      fun tr o m' => Silent tr o ∨
        ∃ sid, Concluded decision sid completeTypes cutTypes tr o m' := by
  simp only [AccessService.startSession, Prog.ensures_bind' (ask .newId), ensures_ask .newId,
    Prog.Then, Prog.ensures_bind' (ask .now), ensures_ask .now, Prog.ensures_bind' (lift _),
    ensures_lift]
  refine ⟨fun id => ⟨fun startedAt => ⟨fun session hinit => ?_, ?_⟩, ?_⟩, ?_⟩
  · obtain ⟨rfl, haware, -⟩ := Session.postInit_opening hinit rfl
    simp only [Prog.ensures_bind' (Prog.modify _), Prog.ensures_modify, Prog.Then]
    refine (runSession_ensures d hd terminal (m := { m with session := some _ }) rfl rfl haware
      request decision target account credential).mono ?_
    intro tr o m' h
    have hafter : Concluded decision id completeTypes cutTypes
        ([⟨.newId, .ok id⟩, ⟨.now, .ok startedAt⟩] ++ tr) o m' := h.after_silence rfl rfl
    exact .inr ⟨id, hafter⟩
  all_goals intros; exact .inl ⟨rfl, _, rfl⟩

/-- Every way a request can leave the audit log and its result. -/
def Trail (tr : List PamEvent) (o : PamOutcome AccessResult) (m' : Memory) : Prop :=
  Silent tr o ∨
  (∃ ev decision, persisted tr = [ev] ∧ ev.eventType = .accessDenied ∧
    o = .ret ⟨decision, none⟩) ∨
  ∃ decision sid, decision.effect = .allow ∧ Concluded decision sid completeTypes cutTypes tr o m'

theorem Trail.after_silence {tr tr' : List PamEvent} {o : PamOutcome AccessResult} {m' : Memory}
    (h : Trail tr' o m') (hp : persisted tr = []) (hi : interrupted tr = false) :
    Trail (tr ++ tr') o m' := by
  rcases h with ⟨hp', ho⟩ | ⟨ev, decision, hp', hty, ho⟩ | ⟨decision, sid, hd, h⟩
  · exact .inl ⟨by simp [hp, hp'], ho⟩
  · exact .inr (.inl ⟨ev, decision, by simp [hp, hp'], hty, ho⟩)
  · exact .inr (.inr ⟨decision, sid, hd, h.after_silence hp hi⟩)

theorem deny_ensures (request : AccessRequest) (decision : AccessDecision)
    (actorUserId : Option PyStr) (m : Memory) :
    (deny request decision actorUserId).Ensures m Trail := by
  refine (appendEvent_ensures request _ _ _ _ _ none m (by simp)).bind ?_ ?_
  · rintro tr _ m' ⟨rfl, hi, ⟨ev, -, hp, hty, -⟩ | ⟨e, he, -⟩⟩
    · rw [Prog.ensures_pure, List.append_nil]
      exact .inr (.inl ⟨ev, decision, hp, hty, rfl⟩)
    · cases he
  · rintro tr e m' ⟨rfl, hi, ⟨ev, he, -⟩ | ⟨e', -, hp, -⟩⟩
    · cases he
    · exact .inl ⟨hp, e, rfl⟩

theorem denyWithReason_ensures (request : AccessRequest) (reason : PyStr) (m : Memory) :
    (denyWithReason request reason).Ensures m Trail :=
  deny_ensures request _ none m

/-- A port call that is neither an append nor a broker call leaves the trail to
what follows it. -/
theorem asked_ensures {c : PamCall} {f : c.Answer → Pam AccessResult} {m : Memory}
    (hc : ∀ r, persistedOne ⟨c, r⟩ = none ∧ interruptedOne ⟨c, r⟩ = false)
    (hf : ∀ a, (f a).Ensures m Trail) : (ask c >>= f).Ensures m Trail := by
  rw [Prog.ensures_bind', ensures_ask]
  refine ⟨fun a => (hf a).mono fun tr o m' h => ?_, fun e => ?_⟩
  · exact h.after_silence (by simp [(hc (.ok a)).1]) (by simp [(hc (.ok a)).2])
  · exact .inl ⟨by simp [(hc (.error e)).1], e, rfl⟩

theorem checkAccount_ensures (request : AccessRequest) {decision : AccessDecision}
    (hallow : decision.effect = .allow) (target : Target) (m : Memory) :
    ((portService d hd).checkAccount request decision target terminal).Ensures m Trail := by
  refine asked_ensures (fun r => ⟨rfl, rfl⟩) fun account => ?_
  cases account with
  | none => exact denyWithReason_ensures _ _ _
  | some account =>
    by_cases henabled : account.enabled = true
    · by_cases htarget : account.targetId = target.id
      · simp only [henabled, htarget, Bool.not_true, Bool.false_eq_true, ne_eq, not_true_eq_false,
          if_false]
        refine asked_ensures (fun r => ⟨rfl, rfl⟩) fun credential => ?_
        cases credential with
        | none => exact denyWithReason_ensures _ _ _
        | some credential =>
          refine (startSession_ensures d hd terminal request decision target account credential
            m).mono fun tr o m' h => ?_
          exact h.imp_right fun ⟨sid, h⟩ => .inr ⟨decision, sid, hallow, h⟩
      · simpa [henabled, htarget] using denyWithReason_ensures _ _ _
    · simpa [henabled] using denyWithReason_ensures _ _ _

theorem checkTarget_ensures (request : AccessRequest) {decision : AccessDecision}
    (hallow : decision.effect = .allow) (m : Memory) :
    ((portService d hd).checkTarget request decision terminal).Ensures m Trail := by
  refine asked_ensures (fun r => ⟨rfl, rfl⟩) fun target => ?_
  cases target with
  | none => exact denyWithReason_ensures _ _ _
  | some target =>
    by_cases henabled : target.enabled = true
    · simpa [henabled] using checkAccount_ensures d hd terminal request hallow target m
    · simpa [henabled] using denyWithReason_ensures _ _ _

theorem handle_ensures (principal : AuthenticatedPrincipal) (request : AccessRequest) (m : Memory) :
    ((portService d hd).handle principal request terminal).Ensures m Trail := by
  by_cases hid : principal.userId = request.userId
  · have hdecide (decision : AccessDecision) : (if decision.effect ≠ .allow then
        deny request decision none
        else (portService d hd).checkTarget request decision terminal).Ensures m Trail := by
      by_cases hallow : decision.effect = .allow
      · simpa [hallow] using checkTarget_ensures d hd terminal request hallow m
      · simpa [hallow] using deny_ensures request decision none m
    simp only [AccessService.handle, hid, ne_eq, not_true_eq_false, if_false,
      PolicyEvaluation.evaluate, bind_assoc, pure_bind]
    exact asked_ensures (c := .findMatching _ _ _) (fun r => ⟨rfl, rfl⟩) fun policies => hdecide _
  · have hdeny : (deny request ⟨.deny, py "authenticated_identity_mismatch"⟩
        (some principal.userId)).Ensures m Trail := deny_ensures request _ _ m
    simpa [AccessService.handle, hid] using hdeny

def terminalType : AuditEventType → Bool
  | .sessionClosed | .sessionFailed => true
  | _ => false

/-- `SESSION_CLOSED` or `SESSION_FAILED`. -/
def isTerminal (ev : AuditEvent) : Bool := terminalType ev.eventType

/-- The complete audit trails of one request. -/
def completeTrails : List (List AuditEventType) := [.accessDenied] :: completeTypes

/-- What the audit trail of a run and its returned result have in common. -/
structure Agrees (tr : List PamEvent) (o : PamOutcome AccessResult) (m' : Memory) : Prop where
  shape : ∃ trail ∈ completeTrails, (persisted tr).map (·.eventType) <+: trail
  oneSession : ∃ sid, ∀ ev ∈ persisted tr, ev.eventType ≠ .accessDenied → ev.sessionId = some sid
  returned : (∃ decision s, o = .ret ⟨decision, some s⟩) ↔
    ∃ ev, (persisted tr).filter isTerminal = [ev] ∧ (persisted tr).getLast? = some ev
  matching : ∀ decision s, o = .ret ⟨decision, some s⟩ → m'.session = some s ∧
    ∃ ev, (persisted tr).getLast? = some ev ∧ Matches s ev
  /-- A result without a session is a recorded denial. -/
  denied : ∀ decision, o = .ret ⟨decision, none⟩ →
    (persisted tr).map (·.eventType) = [.accessDenied]
  reported : ∀ result, o = .ret result → ((reportAccessResult result).2 = 0 ↔
    ∃ ev, (persisted tr).getLast? = some ev ∧ ev.eventType = .sessionClosed)

theorem map_filter_isTerminal (evs : List AuditEvent) :
    (evs.filter isTerminal).map (·.eventType) = (evs.map (·.eventType)).filter terminalType := by
  rw [List.filter_map]
  rfl

theorem cut_no_terminal {types : List AuditEventType} (h : types ∈ cutTypes) :
    types.filter terminalType = [] ∧ ∃ trail ∈ completeTrails, types <+: trail := by
  revert types
  decide

theorem complete_one_terminal {types : List AuditEventType} (h : types ∈ completeTypes) :
    (types.filter terminalType).length = 1 ∧ types ∈ completeTrails := by
  revert types
  decide

theorem Matches.isTerminal {s : Session} {ev : AuditEvent} (h : Matches s ev) :
    isTerminal ev = true := by
  rcases h.status with ⟨-, hty⟩ | ⟨-, hty⟩ <;> simp [AccessAuditTrail.isTerminal, hty, terminalType]

theorem Matches.closed_iff {s : Session} {ev : AuditEvent} (h : Matches s ev) :
    s.status = .closed ↔ ev.eventType = .sessionClosed := by
  rcases h.status with ⟨hs, hty⟩ | ⟨hs, hty⟩ <;> simp [hs, hty]

/-- One terminal event in the whole trail is the one that ends it. -/
theorem filter_eq_last {evs : List AuditEvent} {ev : AuditEvent} (hlast : evs.getLast? = some ev)
    (hev : isTerminal ev = true) (hone : (evs.filter isTerminal).length = 1) :
    evs.filter isTerminal = [ev] := by
  obtain ⟨before, rfl⟩ := List.getLast?_eq_some_iff.mp hlast
  simp only [List.filter_append, List.filter_cons_of_pos hev, List.filter_nil, List.length_append,
    List.length_singleton] at hone ⊢
  have hnil : before.filter isTerminal = [] := List.eq_nil_of_length_eq_zero (by omega)
  rw [hnil, List.nil_append]

theorem Silent.agrees {tr : List PamEvent} {o : PamOutcome AccessResult} {m' : Memory}
    (h : Silent tr o) : Agrees tr o m' := by
  obtain ⟨hp, e, rfl⟩ := h
  constructor <;> simp [hp, completeTrails]

theorem denied_agrees {tr : List PamEvent} {ev : AuditEvent} {decision : AccessDecision}
    {m' : Memory} (hp : persisted tr = [ev]) (hty : ev.eventType = .accessDenied) :
    Agrees tr (.ret ⟨decision, none⟩) m' := by
  have hnot : isTerminal ev = false := by simp [isTerminal, hty, terminalType]
  constructor
  · exact ⟨[.accessDenied], by simp [completeTrails], by simp [hp, hty]⟩
  · exact ⟨[], by simp [hp, hty]⟩
  · simp [hp, hnot]
  · simp
  · simp [hp, hty]
  · simp [hp, hty, reportAccessResult_success_iff]

theorem Concluded.agrees {decision : AccessDecision} {sid : PyStr} {tr : List PamEvent}
    {o : PamOutcome AccessResult} {m' : Memory} (hd : decision.effect = .allow)
    (h : Concluded decision sid completeTypes cutTypes tr o m') : Agrees tr o m' := by
  rcases h with ⟨s, ev, types, rfl, hm', hid, hlast, hmat, hts, hl, -⟩ | ⟨e, types, rfl, hts, hl, -⟩
  · obtain ⟨hone, htrail⟩ := complete_one_terminal hts
    have hfilter : (persisted tr).filter isTerminal = [ev] := by
      refine filter_eq_last hlast hmat.isTerminal ?_
      rw [← List.length_map (·.eventType), map_filter_isTerminal, hl.1, hone]
    refine ⟨⟨types, htrail, by rw [hl.1]⟩, ⟨sid, fun ev hev _ => hl.2 ev hev⟩, ?_, ?_, ?_, ?_⟩
    · exact ⟨fun _ => ⟨ev, hfilter, hlast⟩, fun _ => ⟨decision, s, rfl⟩⟩
    · rintro _ _ ⟨⟩
      exact ⟨hm', ev, hlast, hmat⟩
    · rintro _ ⟨⟩
    · rintro _ ⟨⟩
      simp [reportAccessResult_success_iff, hd, hlast, hmat.closed_iff]
  · obtain ⟨hnone, trail, htrail, hpre⟩ := cut_no_terminal hts
    have hfilter : (persisted tr).filter isTerminal = [] := by
      rw [← List.map_eq_nil_iff, map_filter_isTerminal, hl.1, hnone]
    refine ⟨⟨trail, htrail, by rw [hl.1]; exact hpre⟩, ⟨sid, fun ev hev _ => hl.2 ev hev⟩,
      ?_, ?_, ?_, ?_⟩
    · simp [hfilter]
    · simp
    · simp
    · simp

/-- In every run the persisted events and the returned result agree. -/
theorem handle_agrees (principal : AuthenticatedPrincipal) (request : AccessRequest)
    (m : Memory) {tr : List PamEvent} {o : PamOutcome AccessResult} {m' : Memory}
    (hrun : ((portService d hd).handle principal request terminal).Run m tr o m') :
    Agrees tr o m' := by
  rcases handle_ensures d hd terminal principal request m tr o m' hrun with
    h | ⟨ev, decision, hp, hty, rfl⟩ | ⟨decision, sid, hdecision, h⟩
  · exact h.agrees
  · exact denied_agrees hp hty
  · exact h.agrees hdecision

/-- The session of the run is closed or failed, and exactly one event says so. -/
def Terminated (tr : List PamEvent) (m' : Memory) : Prop :=
  ∃ s ev, m'.session = some s ∧ (persisted tr).filter isTerminal = [ev] ∧ Matches s ev

theorem Concluded.terminated_iff {decision : AccessDecision} {sid : PyStr} {tr : List PamEvent}
    {o : PamOutcome AccessResult} {m' : Memory} (hf : faulty tr = false)
    (h : Concluded decision sid completeTypes cutTypes tr o m') :
    Terminated tr m' ↔ interrupted tr = false := by
  rcases h with ⟨s, ev, types, rfl, hm', hid, hlast, hmat, hts, hl, hi⟩ |
    ⟨e, types, rfl, hts, hl, hfi⟩
  · have hfilter : (persisted tr).filter isTerminal = [ev] := by
      refine filter_eq_last hlast hmat.isTerminal ?_
      rw [← List.length_map (·.eventType), map_filter_isTerminal, hl.1,
        (complete_one_terminal hts).1]
    exact ⟨fun _ => hi, fun _ => ⟨s, ev, hm', hfilter, hmat⟩⟩
  · have hfilter : (persisted tr).filter isTerminal = [] := by
      rw [← List.map_eq_nil_iff, map_filter_isTerminal, hl.1, (cut_no_terminal hts).1]
    have hi : interrupted tr = true := by simpa [hf] using hfi
    simp [Terminated, hfilter, hi]

/-- An audited session reaches its terminal record exactly when no broker call
was interrupted. -/
theorem handle_terminated_iff (principal : AuthenticatedPrincipal) (request : AccessRequest)
    (m : Memory) {tr : List PamEvent} {o : PamOutcome AccessResult} {m' : Memory}
    (hrun : ((portService d hd).handle principal request terminal).Run m tr o m')
    (hopening : ∃ ev ∈ persisted tr, ev.eventType = .sessionOpening) (hf : faulty tr = false) :
    Terminated tr m' ↔ interrupted tr = false := by
  rcases handle_ensures d hd terminal principal request m tr o m' hrun with
    ⟨hp, -⟩ | ⟨ev, decision, hp, hty, -⟩ | ⟨decision, sid, -, h⟩
  · simp [hp] at hopening
  · simp [hp, hty] at hopening
  · exact h.terminated_iff hf

end

section Example

def exampleRequest : AccessRequest :=
  ⟨py "request-1", py "user-1", py "target-1", .openPrivilegedSession,
    .utc 0 yearOne_lt⟩

def examplePrincipal : AuthenticatedPrincipal := ⟨py "user-1", py "alice", by decide, by decide⟩

def exampleTarget : Target :=
  ⟨py "target-1", py "db", py "db.internal", 22, ⟨py "SHA256:AAAA", by decide⟩, true⟩

def exampleAccount : PrivilegedAccount :=
  ⟨py "account-1", py "target-1", py "root", ⟨py "credential-1", by decide⟩, true⟩

def exampleMemory : Memory := ⟨none, false, none, false, false, false⟩

/-- Every check passes; the relay answers `relayed`. -/
def exampleWorld (relayed : Except PyExn (Option RelayOutcome)) (past : List PamEvent) :
    (c : PamCall) → Reply pamSignature c
  | .findMatching userId targetId action => .ok [⟨py "policy-1", userId, targetId, action, .allow⟩]
  | .getTarget _ => .ok (some exampleTarget)
  | .findForTarget _ => .ok (some exampleAccount)
  | .resolve _ => .ok (some ⟨[115, 51]⟩)
  | .newId => .ok (padded 4 past.length)
  | .now => .ok (.utc 1000000 firstSecond_lt)
  | .relay _ => relayed
  | .append _ => .ok ()
  | .openSession _ _ _ => .ok ()
  | .closeSession => .ok ()
  | _ => .error (raised .otherException [])

def exampleRun (relayed : Except PyExn (Option RelayOutcome)) :
    Option (List PamEvent × PamOutcome AccessResult × Memory) :=
  ((portService 1 Int.one_pos).handle examplePrincipal exampleRequest portTerminal).exec
    (exampleWorld relayed) [] exampleMemory

theorem handle_agrees_example : ∃ tr o m', exampleRun (.ok (some .completed)) = some (tr, o, m') ∧
    (persisted tr).map (·.eventType) =
      [.accessAllowed, .sessionOpening, .sessionActive, .sessionClosed] ∧ Agrees tr o m' := by
  obtain ⟨tr, o, m', hexec, htypes⟩ : ∃ tr o m',
      exampleRun (.ok (some .completed)) = some (tr, o, m') ∧ (persisted tr).map (·.eventType) =
        [.accessAllowed, .sessionOpening, .sessionActive, .sessionClosed] :=
    ⟨_, _, _, rfl, by decide⟩
  exact ⟨tr, o, m', hexec, htypes,
    handle_agrees 1 (by decide) portTerminal _ _ _ (Prog.run_exec _ _ _ _ _ _ _ hexec)⟩

theorem handle_terminated_iff_example : ∃ tr o m',
    exampleRun (.ok (some .completed)) = some (tr, o, m') ∧
    (Terminated tr m' ↔ interrupted tr = false) := by
  obtain ⟨tr, o, m', hexec, hopening, hf⟩ : ∃ tr o m',
      exampleRun (.ok (some .completed)) = some (tr, o, m') ∧
      (∃ ev ∈ persisted tr, ev.eventType = .sessionOpening) ∧ faulty tr = false :=
    ⟨_, _, _, rfl, by decide, by decide⟩
  exact ⟨tr, o, m', hexec, handle_terminated_iff 1 (by decide) portTerminal _ _ _
    (Prog.run_exec _ _ _ _ _ _ _ hexec) hopening hf⟩

def keyboardInterrupt : PyExn := raised .keyboardInterrupt []

/-- An interrupt inside the relay leaves the session active without a terminal event. -/
theorem handle_interrupted_relay : ∃ tr o m',
    ((portService 1 Int.one_pos).handle examplePrincipal exampleRequest portTerminal).Run
      exampleMemory tr o m' ∧
    (∃ ev ∈ persisted tr, ev.eventType = .sessionOpening) ∧ faulty tr = false ∧
    ¬ Terminated tr m' := by
  obtain ⟨tr, o, m', hexec, hopening, hf, hnone⟩ : ∃ tr o m',
      exampleRun (.error keyboardInterrupt) = some (tr, o, m') ∧
      (∃ ev ∈ persisted tr, ev.eventType = .sessionOpening) ∧ faulty tr = false ∧
      (persisted tr).filter isTerminal = [] :=
    ⟨_, _, _, rfl, by decide, by decide, by decide⟩
  refine ⟨tr, o, m', Prog.run_exec _ _ _ _ _ _ _ hexec, hopening, hf, ?_⟩
  rintro ⟨s, ev, -, hev, -⟩
  simp [hnone] at hev

end Example

end PamMvp.AccessAuditTrail
