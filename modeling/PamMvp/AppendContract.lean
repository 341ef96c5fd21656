import PamMvp.AuditVerification
import PamMvp.SignedBytes

/-!
# The failure contract of `append`

Whatever fails while an event is appended, an error of the audit storage leaves `append`
and the table is as it was. One conversion stands outside every handler: the UTC time of
a timestamp next to the first or the last datetime does not exist, and the `OverflowError`
of the conversion goes through.
-/
namespace PamMvp.AppendContract
open PythonText DateTimes DomainModel SqliteValues SqliteParameters AuditEncoding AuditRepository
  AuditDatabase AuditVerification SignedBytes InteractionPrograms SharedPrograms

/-- The key provider and SQLite with all their failures that are instances of `Exception`. -/
def Failing (key : Bytes) : Server auditSignature (AuditDb Unit) := fun db c r db' =>
  Serves key () db c r db' ∧ ∀ e, r = .error e → e.isException = true

def duplicateEventId : PyExn :=
  raised .duplicateAuditEventError (py "audit event id already exists")

/-- A row has the id. -/
def Stored (id : PyStr) (table : List AuditRow) : Prop := ∃ r ∈ table, r.id = .text (utf8 id)

/-- The type checks of `_serialize` accept every field. -/
structure Supported (event : EventObject) (time : DateTime) : Prop where
  id : ∃ s, event.id.plain = .str s
  actorUserId : ∃ s, event.actorUserId.plain = .str s
  targetId : ∃ s, event.targetId.plain = .str s
  result : ∃ s, event.result.plain = .str s
  sessionId : ∃ s, event.sessionId.plain = optionalField s
  reasonCode : ∃ s, event.reasonCode.plain = optionalField s
  eventType : ∃ t, event.eventType = .eventType t
  timestamp : event.timestamp = .datetime time
  aware : time.aware = true

/-- The timestamp of an event with supported fields is not before year 1 and not after
year 9999 in UTC. -/
def InRange (event : EventObject) : Prop :=
  ∀ timestamp, Supported event timestamp →
    0 ≤ timestamp.instant ∧ timestamp.instant < maxOrdinal * daySize

/-- What the callers of `append` may rely on. -/
structure Contract (key : Bytes) (event : EventObject) (table : List AuditRow) : Prop where
  closed : EnsuresOn (Failing key) (append (.auditEvent event)) ⟨table, none⟩ fun o db =>
    (o = .ret () ∧ ∃ row, db.committed = table ++ [row]) ∨
      (∃ e, o = .raise e ∧ isAuditStorageError e = true) ∧ db.committed = table
  /-- The event is serialised, the head is valid and the event encodes, all parameters can
  be bound, and SQLite answers every call. -/
  decided : ∀ fields head c row, serialize (.auditEvent event) = .ok fields →
    headOf table = .ok head → nextColumns key fields head = .ok c → bindColumns c = .ok row →
    key.length = macSize →
    (Stored fields.eventId table →
      execOn (answer key ()) (append (.auditEvent event)) ⟨table, none⟩ =
        some (.raise duplicateEventId, ⟨table, none⟩)) ∧
    (¬ Stored fields.eventId table →
      execOn (answer key ()) (append (.auditEvent event)) ⟨table, none⟩ =
        some (.ret (), ⟨table ++ [row], none⟩))

section Serialize

variable {event : EventObject} {timestamp : DateTime} {e : PyExn}

theorem requireStr_error {o : FieldObject} (h : requireStr o = .error e) :
    isAuditStorageError e = true := by
  cases o <;> cases h <;> rfl

theorem requireOptionalStr_error {o : FieldObject} (h : requireOptionalStr o = .error e) :
    isAuditStorageError e = true := by
  cases o <;> cases h <;> rfl

theorem requireEventType_error {o : FieldObject} (h : requireEventType o = .error e) :
    isAuditStorageError e = true := by
  cases o <;> cases h <;> rfl

theorem requireDatetime_error {o : FieldObject} (h : requireDatetime o = .error e) :
    isAuditStorageError e = true := by
  cases o <;> cases h <;> rfl

theorem toUtc_none_iff (timestamp : DateTime) : timestamp.toUtc = none ↔
    ¬ (0 ≤ timestamp.instant ∧ timestamp.instant < maxOrdinal * daySize) := by
  unfold DateTime.toUtc
  split
  · rename_i h
    simp [h]
  · rename_i h
    simp [h]

theorem utcTimestamp_error (h : utcTimestamp timestamp = .error e) :
    isAuditStorageError e = true ∨ timestamp.aware = true ∧ timestamp.toUtc = none := by
  unfold utcTimestamp at h
  split at h
  · cases h
    exact .inl rfl
  · rename_i haware
    split at h
    · cases h
    · rename_i hnone
      exact .inr ⟨by simpa using haware, hnone⟩

/-- `_serialize` raises an error of its own or meets a time that UTC does not have. -/
theorem serialize_error (h : serialize (.auditEvent event) = .error e) :
    isAuditStorageError e = true ∨ ∃ timestamp, Supported event timestamp ∧
      timestamp.toUtc = none := by
  rcases except_bind_error h with h | ⟨id, hid, h⟩
  · exact .inl (requireStr_error h)
  rcases except_bind_error h with h | ⟨actor, hactor, h⟩
  · exact .inl (requireStr_error h)
  rcases except_bind_error h with h | ⟨target, htarget, h⟩
  · exact .inl (requireStr_error h)
  rcases except_bind_error h with h | ⟨result, hresult, h⟩
  · exact .inl (requireStr_error h)
  rcases except_bind_error h with h | ⟨session, hsession, h⟩
  · exact .inl (requireOptionalStr_error h)
  rcases except_bind_error h with h | ⟨reason, hreason, h⟩
  · exact .inl (requireOptionalStr_error h)
  rcases except_bind_error h with h | ⟨type, htype, h⟩
  · exact .inl (requireEventType_error h)
  rcases except_bind_error h with h | ⟨timestamp, htimestamp, h⟩
  · exact .inl (requireDatetime_error h)
  rcases except_bind_error h with h | ⟨text, -, h⟩
  · refine (utcTimestamp_error h).imp_right fun hutc => ⟨timestamp, ?_, hutc.2⟩
    exact ⟨⟨id, (requireStr_ok_iff _ _).mp hid⟩, ⟨actor, (requireStr_ok_iff _ _).mp hactor⟩,
      ⟨target, (requireStr_ok_iff _ _).mp htarget⟩, ⟨result, (requireStr_ok_iff _ _).mp hresult⟩,
      ⟨session, (requireOptionalStr_ok_iff _ _).mp hsession⟩,
      ⟨reason, (requireOptionalStr_ok_iff _ _).mp hreason⟩,
      ⟨type, (requireEventType_ok_iff _ _).mp htype⟩, (requireDatetime_ok_iff _ _).mp htimestamp,
      hutc.1⟩
  · cases h

theorem serialize_overflow (h : Supported event timestamp) (hnone : timestamp.toUtc = none) :
    serialize (.auditEvent event) =
      .error (raised .overflowError (py "date value out of range")) := by
  obtain ⟨⟨id, hid⟩, ⟨actor, hactor⟩, ⟨target, htarget⟩, ⟨result, hresult⟩, ⟨session, hsession⟩,
    ⟨reason, hreason⟩, ⟨type, htype⟩, htimestamp, haware⟩ := h
  have hutc : utcTimestamp timestamp =
      .error (raised .overflowError (py "date value out of range")) := by
    simp [utcTimestamp, haware, hnone]
  simp only [serialize, (requireStr_ok_iff _ _).mpr hid, (requireStr_ok_iff _ _).mpr hactor,
    (requireStr_ok_iff _ _).mpr htarget, (requireStr_ok_iff _ _).mpr hresult,
    (requireOptionalStr_ok_iff _ _).mpr hsession, (requireOptionalStr_ok_iff _ _).mpr hreason,
    (requireEventType_ok_iff _ _).mpr htype, (requireDatetime_ok_iff _ _).mpr htimestamp, bind,
    Except.bind, hutc]

end Serialize

section Closed

variable {key : Bytes} {db : AuditDb Unit}

/-- Every exception that is raised satisfies the predicate. -/
def RaisesOnly {α : Type} (P : PyExn → Bool) :
    Outcome auditSignature α → AuditDb Unit → Prop
  | .ret _, _ => True
  | .raise e, _ => P e = true

theorem ask_exceptions (c : AuditCall) :
    EnsuresOn (Failing key) (ask c) db (RaisesOnly PyExn.isException) :=
  ensuresOn_perform (fun _ _ _ => trivial) fun e _ hserve => hserve.2 e rfl

theorem nextColumns_error {k : Bytes} {fields : EventFields} {head : Option (List PyValue)}
    {e : PyExn} (h : nextColumns k fields head = .error e) : e.isException = true := by
  rcases except_bind_error h with hlink | ⟨⟨n, previous⟩, -, h⟩
  · unfold nextChainLink at hlink
    split at hlink
    · cases hlink
    · split at hlink <;> cases hlink
      rfl
    · cases hlink
      rfl
  · rcases except_bind_error h with hcanonical | ⟨canonical, -, h⟩
    · unfold canonicalEventBytes at hcanonical
      split at hcanonical <;> cases hcanonical
      rfl
    · cases h

theorem appendRow_exceptions (k : Bytes) (fields : EventFields) :
    EnsuresOn (Failing key) (appendRow k fields) db (RaisesOnly PyExn.isException) := by
  refine (ask_exceptions .beginImmediate).bind (fun _ db' _ => ?_) fun _ _ h => h
  refine (ask_exceptions .selectHead).bind (fun head db' _ => ?_) fun _ _ h => h
  have hlift : EnsuresOn (Failing key) (lift (nextColumns k fields head)) db'
      (RaisesOnly PyExn.isException) :=
    ensuresOn_ofReply (fun _ _ => trivial) fun e he => nextColumns_error he
  refine hlift.bind (fun c db' _ => ?_) fun _ _ h => h
  refine (ask_exceptions (.insert c)).bind (fun _ db' _ => ?_) fun _ _ h => h
  exact ask_exceptions .commit

theorem rollingBack_exceptions {p : Audit Unit}
    (hp : EnsuresOn (Failing key) p db (RaisesOnly PyExn.isException)) :
    EnsuresOn (Failing key) (rollingBack p) db (RaisesOnly PyExn.isException) := by
  refine hp.tryExcept (fun _ _ h => h) fun e db' h => ?_
  have hexception : e.isException = true := h
  simp only [hexception, if_true]
  refine (ask_exceptions .rollback).bind (fun _ db' _ => ?_) fun _ _ h => h
  exact ensuresOn_raise e hexception

theorem connected_exceptions {p : Audit Unit}
    (hp : ∀ db, EnsuresOn (Failing key) p db (RaisesOnly PyExn.isException)) :
    EnsuresOn (Failing key) (connected p) db (RaisesOnly PyExn.isException) := by
  refine (ask_exceptions .connect).bind (fun _ db' _ => ?_) fun _ _ h => h
  refine (hp db').tryFinally fun o db' ho => (ask_exceptions .close).mono fun o' db'' h => ?_
  cases o' with
  | ret u =>
    cases o with
    | ret u' => trivial
    | raise e => exact ho
  | raise e => exact h

/-- Every `Exception` comes out of the handlers as an error of the audit storage. -/
theorem appendError_storage {e : PyExn} (h : e.isException = true) :
    isAuditStorageError (appendError e) = true := by
  unfold appendError
  split
  · rfl
  · split
    · assumption
    · split
      · rfl
      · rfl

theorem checkKey_error {v : PyValue} {e : PyExn} (h : checkKey v = .error e) :
    isAuditStorageError e = true := by
  unfold checkKey at h
  split at h
  · split at h <;> cases h
    rfl
  · cases h
    rfl

theorem loadKey_storage :
    EnsuresOn (Failing key) loadKey db (RaisesOnly isAuditStorageError) := by
  have hget : EnsuresOn (Failing key) (rethrowing (ask .getKey) keyNotLoaded) db
      (RaisesOnly isAuditStorageError) := by
    refine (ask_exceptions .getKey).tryExcept (fun _ _ h => h) fun e db' h => ?_
    refine ensuresOn_raise _ ?_
    have hexception : e.isException = true := h
    rw [keyNotLoaded, if_pos hexception]
    rfl
  refine hget.bind (fun v db' _ => ?_) fun _ _ h => h
  exact ensuresOn_ofReply (fun _ _ => trivial) fun e he => checkKey_error he

theorem append_storage {event : EventObject} (h : InRange event) :
    EnsuresOn (Failing key) (append (.auditEvent event)) db (RaisesOnly isAuditStorageError) := by
  have hserialize : EnsuresOn (Failing key) (lift (serialize (.auditEvent event))) db
      (RaisesOnly isAuditStorageError) := by
    refine ensuresOn_ofReply (fun _ _ => trivial) fun e he => ?_
    refine (serialize_error he).resolve_right fun hutc => ?_
    obtain ⟨time, hsupported, hnone⟩ := hutc
    exact (toUtc_none_iff time).mp hnone (h time hsupported)
  refine hserialize.bind (fun fields db' _ => ?_) fun _ _ h => h
  refine loadKey_storage.bind (fun k db' _ => ?_) fun _ _ h => h
  have hrow : EnsuresOn (Failing key) (connected (rollingBack (appendRow k fields))) db'
      (RaisesOnly PyExn.isException) :=
    connected_exceptions fun db => rollingBack_exceptions (appendRow_exceptions k fields)
  refine hrow.tryExcept (fun _ _ h => h) fun e db'' h => ?_
  exact ensuresOn_raise _ (appendError_storage h)

end Closed

section Decided

variable {key : Bytes} {event : AppendArgument} {table : List AuditRow} {fields : EventFields}
  {head : Option (List PyValue)} {c : AuditColumns PyValue} {row : AuditRow}

/-- The new number is above all others, so only the id can be taken. -/
theorem violates_iff_stored (hhead : headOf table = .ok head)
    (hc : nextColumns key fields head = .ok c) (hbind : bindColumns c = .ok row) :
    violates table row = true ↔ Stored fields.eventId table := by
  simp only [nextColumns, except_bind_ok_iff, pure, Except.pure, Except.ok.injEq] at hc
  obtain ⟨⟨n, previous⟩, hlink, canonical, -, rfl⟩ := hc
  obtain ⟨-, rfl⟩ := (bindColumns_ok_iff _ _).mp hbind
  have hlinks := linksTo_of_head hhead hlink
  have habove : ∀ r ∈ table, ¬ (SqlValue.integer n ≤ r.sequenceNo) := by
    intro r hr hle
    have hbelow := le_trans hle (hlinks.lt hr)
    rw [integer_le_integer] at hbelow
    omega
  simp only [violates, List.any_eq_true, Bool.or_eq_true, Bool.and_eq_true, decide_eq_true_eq]
  constructor
  · intro h
    obtain ⟨r, hr, hid | ⟨-, hnumber⟩⟩ := h
    · exact ⟨r, hr, hid⟩
    · exact absurd hnumber (habove r hr)
  · intro h
    obtain ⟨r, hr, hid⟩ := h
    exact ⟨r, hr, .inl hid⟩

theorem execOn_call {d s : AuditDb Unit} {q : AuditCall} {a : q.Answer}
    (h : answer key () d q = (.ok a, s)) :
    execOn (answer key ()) (ask q) d = some (.ret a, s) :=
  execOn_perform h

/-- What comes before the transaction changes nothing. -/
theorem execOn_append (hfields : serialize event = .ok fields) (hkey : key.length = macSize)
    (db : AuditDb Unit) : execOn (answer key ()) (append event) db =
      execOn (answer key ()) (rethrowing (connected (rollingBack (appendRow key fields)))
        appendError) db := by
  have hget : execOn (answer key ()) (rethrowing (ask .getKey) keyNotLoaded) db =
      some (.ret (.bytes key), db) :=
    execOn_tryExcept _ (execOn_call (q := .getKey) (a := .bytes key) rfl)
  have hload : execOn (answer key ()) loadKey db = some (.ret key, db) := by
    rw [loadKey, execOn_bind _ hget, checkKey, if_pos hkey]
    rfl
  rw [append, lift, execOn_ofReply, hfields]
  exact execOn_bind _ hload

theorem execOn_appendRow (hhead : headOf table = .ok head)
    (hc : nextColumns key fields head = .ok c) :
    execOn (answer key ()) (appendRow key fields) ⟨table, none⟩ =
      execOn (answer key ()) (ask (.insert c) >>= fun _ => ask .commit)
        ⟨table, some ((), table)⟩ := by
  rw [appendRow, execOn_bind _ (execOn_call (q := .beginImmediate) (a := ())
      (s := ⟨table, some ((), table)⟩) rfl),
    execOn_bind _ (execOn_call (q := .selectHead) (a := head) (s := ⟨table, some ((), table)⟩)
      (by simp [answer, AuditDb.visible, hhead])),
    lift, execOn_ofReply, hc]

/-- A refused insertion is rolled back and reported as a duplicate. -/
theorem execOn_refused (hhead : headOf table = .ok head)
    (hc : nextColumns key fields head = .ok c)
    (hinsert : answer key () ⟨table, some ((), table)⟩ (.insert c) =
      (.error constraintFailed, ⟨table, some ((), table)⟩)) :
    execOn (answer key ()) (rethrowing (connected (rollingBack (appendRow key fields)))
      appendError) ⟨table, none⟩ = some (.raise duplicateEventId, ⟨table, none⟩) := by
  have hrow : execOn (answer key ()) (appendRow key fields) ⟨table, none⟩ =
      some (.raise constraintFailed, ⟨table, some ((), table)⟩) := by
    rw [execOn_appendRow hhead hc]
    exact execOn_bind_raise _ (execOn_perform_raise hinsert)
  have hrolled : execOn (answer key ()) (rollingBack (appendRow key fields)) ⟨table, none⟩ =
      some (.raise constraintFailed, ⟨table, none⟩) := by
    rw [rollingBack, execOn_tryExcept_raise _ hrow]
    exact execOn_bind _ (execOn_call (q := .rollback) (a := ()) rfl)
  have hclosed : execOn (answer key ()) (connected (rollingBack (appendRow key fields)))
      ⟨table, none⟩ = some (.raise constraintFailed, ⟨table, none⟩) := by
    rw [connected, execOn_bind _ (execOn_call (a := ()) (s := ⟨table, none⟩) rfl)]
    exact execOn_tryFinally hrolled (execOn_call (q := .close) (a := ()) rfl)
  rw [rethrowing, execOn_tryExcept_raise _ hclosed]
  rfl

theorem execOn_inserted (hhead : headOf table = .ok head)
    (hc : nextColumns key fields head = .ok c)
    (hinsert : answer key () ⟨table, some ((), table)⟩ (.insert c) =
      (.ok (), ⟨table, some ((), table ++ [row])⟩)) :
    execOn (answer key ()) (rethrowing (connected (rollingBack (appendRow key fields)))
      appendError) ⟨table, none⟩ = some (.ret (), ⟨table ++ [row], none⟩) := by
  have hrow : execOn (answer key ()) (appendRow key fields) ⟨table, none⟩ =
      some (.ret (), ⟨table ++ [row], none⟩) := by
    rw [execOn_appendRow hhead hc, execOn_bind _ (execOn_call (a := ()) hinsert)]
    exact execOn_call (q := .commit) (a := ()) rfl
  refine execOn_tryExcept _ ?_
  rw [connected, execOn_bind _ (execOn_call (a := ()) (s := ⟨table, none⟩) rfl)]
  exact execOn_tryFinally (execOn_tryExcept _ hrow) (execOn_call (q := .close) (a := ()) rfl)

theorem append_decided (hfields : serialize event = .ok fields) (hhead : headOf table = .ok head)
    (hc : nextColumns key fields head = .ok c) (hbind : bindColumns c = .ok row)
    (hkey : key.length = macSize) :
    (Stored fields.eventId table → execOn (answer key ()) (append event) ⟨table, none⟩ =
      some (.raise duplicateEventId, ⟨table, none⟩)) ∧
    (¬ Stored fields.eventId table → execOn (answer key ()) (append event) ⟨table, none⟩ =
      some (.ret (), ⟨table ++ [row], none⟩)) := by
  have hviolates := violates_iff_stored hhead hc hbind
  rw [execOn_append hfields hkey]
  constructor
  · intro hstored
    apply execOn_refused hhead hc
    simp [answer, hbind, AuditDb.blocked, AuditDb.visible, hviolates.mpr hstored]
  · intro hstored
    have hfree : violates table row = false := Bool.eq_false_iff.mpr (mt hviolates.mp hstored)
    apply execOn_inserted hhead hc
    simp [answer, hbind, AuditDb.blocked, AuditDb.visible, hfree]

end Decided

/-- The `OverflowError` is raised before anything else happens. -/
theorem not_contract_of_overflow {key : Bytes} {event : EventObject} {table : List AuditRow}
    (hserialize : serialize (.auditEvent event) =
      .error (raised .overflowError (py "date value out of range"))) :
    ¬ Contract key event table := by
  intro h
  have hrun : RunsOn (Failing key) (append (.auditEvent event)) ⟨table, none⟩
      (.raise (raised .overflowError (py "date value out of range"))) ⟨table, none⟩ := by
    rw [append, lift, hserialize]
    exact ⟨rfl, rfl⟩
  rcases h.closed _ _ hrun with ⟨hret, -⟩ | ⟨⟨e, he, hstorage⟩, -⟩
  · cases hret
  · cases he
    cases hstorage

/-- The contract holds for exactly the events that are refused by their types or have a
timestamp whose UTC time is a datetime, whatever the table, the key and the failures. -/
theorem contract_iff_inRange (key : Bytes) (event : EventObject) (table : List AuditRow) :
    Contract key event table ↔ InRange event := by
  constructor
  · intro h time hsupported
    by_contra hout
    have hserialize := serialize_overflow hsupported ((toUtc_none_iff time).mpr hout)
    exact not_contract_of_overflow hserialize h
  · intro h
    refine ⟨fun o db hrun => ?_, fun fields head c row hfields hhead hc hbind hkey =>
      append_decided hfields hhead hc hbind hkey⟩
    have hserved : RunsOn (Serves key ()) (append (.auditEvent event)) ⟨table, none⟩ o db :=
      RunsOn.mono (fun _ _ _ _ hserve => hserve.1) hrun
    rcases append_run hserved with ⟨hret, row, -, hnew⟩ | ⟨⟨e, rfl⟩, hsame⟩
    · exact .inl ⟨hret, row, hnew⟩
    · have hstorage : isAuditStorageError e = true := append_storage h _ _ hrun
      exact .inr ⟨⟨e, rfl, hstorage⟩, hsame⟩

section Example

/-- Midnight of the first day of year 1, one hour east of UTC. -/
def earlyTime : DateTime :=
  ⟨0, some (.other 0), some 3600000000, yearOne_lt, by decide, by simp, by simp⟩

def earlyEvent : AuditEvent :=
  ⟨py "e-1", earlyTime, .accessDenied, py "alice", py "db", none, py "denied",
    some (py "no_matching_policy")⟩

def earlyObject : EventObject where
  id := .str earlyEvent.id
  timestamp := .datetime earlyEvent.timestamp
  eventType := .eventType earlyEvent.eventType
  actorUserId := .str earlyEvent.actorUserId
  targetId := .str earlyEvent.targetId
  sessionId := optionalField earlyEvent.sessionId
  result := .str earlyEvent.result
  reasonCode := optionalField earlyEvent.reasonCode

/-- The constructor accepts the event, and appending it to an empty table with a good key
raises an `OverflowError`. -/
theorem early_event_overflows :
    earlyEvent.postInit = .ok earlyEvent ∧
      execOn (answer (List.replicate 32 7) ()) (append (.auditEvent earlyObject)) ⟨[], none⟩ =
        some (.raise (raised .overflowError (py "date value out of range")), ⟨[], none⟩) ∧
      ¬ Contract (List.replicate 32 7) earlyObject [] :=
  ⟨rfl, rfl, not_contract_of_overflow rfl⟩

end Example

end PamMvp.AppendContract
