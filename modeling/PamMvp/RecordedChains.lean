import PamMvp.AppendNeutrality
import PamMvp.ServedAccess

/-!
# The chain in an audit file

`append` and `verify_integrity` on a file with tables and constraints, where the rows are
lists of values under the names of their columns. In a file that the repository created,
appending keeps the rows a chain of authentic records, whatever events are refused.
-/
namespace PamMvp.RecordedChains
open InteractionPrograms SharedPrograms ServedPrograms PythonText DomainModel SqliteValues
  SqliteParameters TableConstraints AdapterSchemas EnforcedUniqueness CreatedTables HashChains
  AuditEncoding AuditRepository AuditDatabase AuditVerification RecordedEvents PamCalls WiredAccess
  ServedAccess

section Purpose

/-- The columns that `verify_integrity` selects, from a row under these names. -/
def auditRow (names : List PyStr) (row : List SqlValue) : AuditRow where
  sequenceNo := valueOf names row (py "sequence_no")
  id := valueOf names row (py "id")
  timestamp := valueOf names row (py "timestamp")
  eventType := valueOf names row (py "event_type")
  actorUserId := valueOf names row (py "actor_user_id")
  targetId := valueOf names row (py "target_id")
  sessionId := valueOf names row (py "session_id")
  result := valueOf names row (py "result")
  reasonCode := valueOf names row (py "reason_code")
  previousMac := valueOf names row (py "previous_mac")
  eventMac := valueOf names row (py "event_mac")

/-- `SELECT ... FROM audit_events ORDER BY sequence_no`. -/
def selectRows (db : Database) : Except PyExn (List (Except PyExn (List PyValue))) :=
  match db.table? Audit.tableName with
  | none => .error (sqliteFailure "no such table: audit_events")
  | some t =>
    if Audit.schemaColumns ⊆ t.schema.columnNames then
      .ok (fetchRows (t.rows.map (auditRow t.schema.columnNames)))
    else .error (sqliteFailure "no such column")

/-- The calls of `verify_integrity` on a file with any table. -/
def verifyAnswer (key : PyValue) (c : Connection) :
    (call : AuditCall) → Reply auditSignature call × Connection
  | .selectRows => (selectRows c.visible, c)
  | call => auditAnswer key newest c call

/-- `verify_integrity` on a file that nobody else uses. -/
def Verifies (key : PyValue) (db : Database) (r : Except PyExn Unit) : Prop :=
  ∃ o c, execOn (verifyAnswer key) verifyIntegrity ⟨db, none⟩ = some (o, c) ∧ r = result o

/-- The file was created by the repository and holds a chain of authentic records. -/
structure RecordedChain (key : Bytes) (records : List ChainRecord) (db : Database) : Prop where
  holding : Holding .audit db (records.map fun r => (recordRow r).values)
  authentic : ∀ r ∈ records, Encodes r ∧ r.Authentic key
  chained : Chained auditChaining 1 genesisMac records

end Purpose

section Rows

variable {key : Bytes} {records : List ChainRecord}

theorem auditRow_values (row : AuditRow) : auditRow Audit.schemaColumns row.values = row := by
  cases row
  rfl

/-- In a chain the last row has the largest number. -/
theorem newest_chained (h : Chained auditChaining 1 genesisMac records) :
    newest (records.map fun r => (recordRow r).values) =
      records.getLast?.map fun r => (recordRow r).values := by
  rcases List.eq_nil_or_concat records with rfl | ⟨rest, last, rfl⟩
  · rfl
  rw [List.concat_eq_append] at h ⊢
  obtain ⟨hrest, hlast, -⟩ := (chained_concat rest last).mp h
  have hbelow : ∀ r ∈ rest, r.sequenceNo ≤ last.sequenceNo := by
    intro r hr
    have hnumber : r.sequenceNo ∈ rest.map auditChaining.number := List.mem_map_of_mem hr
    rw [hrest.numbers] at hnumber
    obtain ⟨i, hi, hvalue⟩ := List.mem_map.mp hnumber
    have hindex := List.mem_range.mp hi
    change last.sequenceNo = _ at hlast
    omega
  rw [newest, List.map_append, List.map_singleton, orderBy_append_last, List.getLast?_concat,
    List.getLast?_concat]
  · rfl
  · intro row hrow
    obtain ⟨r, hr, rfl⟩ := List.mem_map.mp hrow
    exact (integer_le_integer _ _).mpr (hbelow r hr)

/-- What `append` reads is the number and the MAC of the last record. -/
theorem readHead_chained {db : Database} (h : RecordedChain key records db) :
    readHead newest db =
      .ok (records.getLast?.map fun r => [.int r.sequenceNo, .bytes r.eventMac]) := by
  have htable : db.table? Audit.tableName =
      some ⟨Audit.created, records.map fun r => (recordRow r).values⟩ := h.holding.table
  simp only [readHead, htable, newest_chained h.chained]
  cases records.getLast? with
  | none => rfl
  | some r =>
    have hfetch : fetchTuple [(recordRow r).sequenceNo, (recordRow r).eventMac] =
        .ok [.int r.sequenceNo, .bytes r.eventMac] :=
      (fetchTuple_ok_iff _ _).mpr ⟨by simp [PyValue.encodes], rfl⟩
    change (fetchTuple [(recordRow r).sequenceNo, (recordRow r).eventMac]).map some = _
    rw [hfetch]
    rfl

theorem nextChainLink_chained (h : Chained auditChaining 1 genesisMac records) :
    nextChainLink (records.getLast?.map fun r => [.int r.sequenceNo, .bytes r.eventMac]) =
      .ok ((1 : ℤ) + records.length, headDigest auditChaining genesisMac records) := by
  rcases List.eq_nil_or_concat records with rfl | ⟨rest, last, rfl⟩
  · rfl
  rw [List.concat_eq_append] at h ⊢
  obtain ⟨-, hlast, -⟩ := (chained_concat rest last).mp h
  have hnumber : last.sequenceNo = 1 + rest.length := hlast
  have hpositive : ¬ last.sequenceNo < 1 := by omega
  rw [List.getLast?_concat, headDigest_concat]
  simp only [Option.map_some, nextChainLink, hpositive, last.eventMac_length]
  simp only [decide_false, ne_eq, not_true_eq_false, Bool.or_self, Bool.false_eq_true, if_false,
    List.length_append, List.length_singleton, Except.ok.injEq, Prod.mk.injEq]
  refine ⟨?_, rfl⟩
  push_cast
  omega

end Rows

section Appending

variable {key : Bytes} {records : List ChainRecord} {db db' : Database} {event : AppendArgument}

/-- The row that `append` builds is that of an authentic record, linked to the last one. -/
theorem nextColumns_chained {fields : EventFields} {row : AuditColumns PyValue}
    (h : Chained auditChaining 1 genesisMac records)
    (hrow : nextColumns key fields
      (records.getLast?.map fun r => [.int r.sequenceNo, .bytes r.eventMac]) = .ok row) :
    ∃ r : ChainRecord, row = recordColumns r ∧ r.Authentic key ∧
      Chained auditChaining 1 genesisMac (records ++ [r]) := by
  have hlink := nextChainLink_chained h
  simp only [nextColumns, hlink, except_bind_ok_iff, pure, Except.pure, Except.ok.injEq] at hrow
  obtain ⟨_, rfl, canonical, hcanonical, rfl⟩ := hrow
  have hprevious : (headDigest auditChaining genesisMac records).length = macSize := by
    unfold headDigest
    cases records.getLast? with
    | none => exact genesisMac_length
    | some last => exact last.eventMac_length
  refine ⟨⟨1 + records.length, fields, headDigest auditChaining genesisMac records,
    calculateEventMac key canonical (headDigest auditChaining genesisMac records), hprevious,
    calculateEventMac_length _ _ _⟩, rfl, ?_, ?_⟩
  · exact (authentic_iff _).mpr ⟨canonical, hcanonical, rfl⟩
  · exact (chained_concat records _).mpr ⟨h, rfl, rfl⟩

theorem checkKey_bytes (hkey : key.length = macSize) : checkKey (.bytes key) = .ok key := by
  simp [checkKey, hkey]

/-- An `append` that succeeds adds one record to the chain. -/
theorem RecordedChain.append (h : RecordedChain key records db) (hkey : key.length = macSize)
    (heffect : (Operation.append (.bytes key) event).effect newest db = .ok db') :
    ∃ r, RecordedChain key (records ++ [r]) db' := by
  simp only [Operation.effect, checkKey_bytes hkey, readHead_chained h, except_bind_ok_iff,
    mapError_ok_iff, Except.ok.injEq, exists_eq_left'] at heffect
  obtain ⟨fields, -, row, hrow, hinsert⟩ := heffect
  obtain ⟨r, rfl, hauthentic, hchained⟩ := nextColumns_chained h.chained hrow
  obtain ⟨hvalues, hholding⟩ := h.holding.insert_ok rfl hinsert
  refine ⟨r, ?_, ?_, hchained⟩
  · rw [List.map_append, List.map_singleton]
    exact hholding
  · intro s hs
    rcases List.mem_append.mp hs with hs | hs
    · exact h.authentic s hs
    · rw [List.mem_singleton.mp hs]
      exact ⟨fun v hv => (hvalues v hv).2, hauthentic⟩

/-- A call of the access service adds at most one record. -/
theorem RecordedChain.served {rt : Runtime} {w w' : AccessState} {c : PamCall}
    {r : Reply pamSignature c} (h : RecordedChain key records w.audit)
    (hkey : key.length = macSize) (hanswer : ServedAccess.Answers rt key w c r w') :
    ∃ records', records <+: records' ∧ RecordedChain key records' w'.audit := by
  cases c with
  | newId =>
    obtain ⟨id, -, -, -, -, rfl⟩ := hanswer
    exact ⟨records, List.prefix_rfl, h⟩
  | now =>
    obtain ⟨-, rfl⟩ := hanswer
    exact ⟨records, List.prefix_rfl, h⟩
  | append event =>
    rcases answers_append hanswer with ⟨db, heffect, -, rfl⟩ | ⟨e, -, -, rfl⟩
    · obtain ⟨r, hchain⟩ := h.append hkey heffect
      exact ⟨records ++ [r], List.prefix_append _ _, hchain⟩
    · exact ⟨records, List.prefix_rfl, h⟩
  | _ =>
    obtain ⟨-, rfl⟩ := hanswer
    exact ⟨records, List.prefix_rfl, h⟩

/-- After any calls of the access service the audit file holds a chain. -/
theorem served_chain {rt : Runtime} {w w' : AccessState} {past : List PamEvent}
    (h : RecordedChain key records w.audit) (hkey : key.length = macSize)
    (hserved : ServedBy (ServedAccess.Answers rt key) w past w') :
    ∃ records', RecordedChain key records' w'.audit := by
  induction hserved generalizing records with
  | nil w => exact ⟨records, h⟩
  | cons hanswer _ ih =>
    obtain ⟨records', -, hchain⟩ := h.served hkey hanswer
    exact ih hchain

end Appending

section Verifying

variable {key : Bytes} {records : List ChainRecord} {db : Database}

theorem execOn_verifyAsk {c d : Connection} {q : AuditCall} {a : q.Answer}
    (h : verifyAnswer (.bytes key) c q = (.ok a, d)) :
    execOn (verifyAnswer (.bytes key)) (AuditRepository.ask q) c = some (.ret a, d) :=
  execOn_perform h

def outcomeOf : Except PyExn Unit → Outcome auditSignature Unit
  | .ok () => .ret ()
  | .error e => .raise e

theorem result_outcomeOf (r : Except PyExn Unit) : result (outcomeOf r) = r := by
  cases r <;> rfl

/-- What `verify_integrity` makes of the selected rows. -/
def verdict (key : Bytes) (db : Database) : Except PyExn Unit :=
  (selectRows db >>= verifyRows key 1 genesisMac).mapError verifyError

/-- The rows are selected and checked, and the file stays as it is. -/
theorem execOn_selected (key : Bytes) (db : Database) :
    execOn (verifyAnswer (.bytes key)) (do
      let rows ← AuditRepository.ask .selectRows
      AuditRepository.lift (verifyRows key 1 genesisMac rows)) ⟨db, none⟩ =
        some (outcomeOf (selectRows db >>= verifyRows key 1 genesisMac), ⟨db, none⟩) := by
  cases hrows : selectRows db with
  | error e =>
    have hselect : execOn (verifyAnswer (.bytes key)) (AuditRepository.ask .selectRows)
        ⟨db, none⟩ = some (.raise e, ⟨db, none⟩) := by
      apply execOn_perform_raise
      simp [verifyAnswer, Connection.visible, hrows]
    rw [execOn_bind_raise _ hselect]
    rfl
  | ok rows =>
    have hselect : execOn (verifyAnswer (.bytes key)) (AuditRepository.ask .selectRows)
        ⟨db, none⟩ = some (.ret rows, ⟨db, none⟩) := by
      apply execOn_verifyAsk
      simp [verifyAnswer, Connection.visible, hrows]
    rw [execOn_bind _ hselect]
    change _ = some (outcomeOf (verifyRows key 1 genesisMac rows), _)
    cases verifyRows key 1 genesisMac rows <;> rfl

theorem execOn_verifyIntegrity (hkey : key.length = macSize) :
    execOn (verifyAnswer (.bytes key)) verifyIntegrity ⟨db, none⟩ =
      some (outcomeOf (verdict key db), ⟨db, none⟩) := by
  have hget : execOn (verifyAnswer (.bytes key)) (AuditRepository.rethrowing
      (AuditRepository.ask .getKey) keyNotLoaded) ⟨db, none⟩ =
        some (.ret (.bytes key), ⟨db, none⟩) :=
    execOn_tryExcept _ (execOn_verifyAsk (q := .getKey) (a := .bytes key) rfl)
  have hconnect : execOn (verifyAnswer (.bytes key)) (AuditRepository.ask .connect) ⟨db, none⟩ =
      some (.ret (), ⟨db, none⟩) := execOn_verifyAsk (q := .connect) (a := ()) rfl
  have hclose : execOn (verifyAnswer (.bytes key)) (AuditRepository.ask .close) ⟨db, none⟩ =
      some (.ret (), ⟨db, none⟩) := execOn_verifyAsk (q := .close) (a := ()) rfl
  have hconnected : execOn (verifyAnswer (.bytes key)) (AuditRepository.connected do
      let rows ← AuditRepository.ask .selectRows
      AuditRepository.lift (verifyRows key 1 genesisMac rows)) ⟨db, none⟩ =
        some (outcomeOf (selectRows db >>= verifyRows key 1 genesisMac), ⟨db, none⟩) := by
    rw [AuditRepository.connected, execOn_bind _ hconnect]
    exact execOn_tryFinally (execOn_selected key db) hclose
  rw [verifyIntegrity, AuditRepository.loadKey, bind_assoc, execOn_bind _ hget,
    AuditRepository.lift, execOn_ofReply, checkKey_bytes hkey]
  unfold verdict
  cases hverdict : selectRows db >>= verifyRows key 1 genesisMac with
  | ok u =>
    rw [hverdict] at hconnected
    exact execOn_tryExcept _ hconnected
  | error e =>
    rw [hverdict] at hconnected
    exact execOn_tryExcept_raise _ hconnected

/-- Verification has one result. -/
theorem verifies_iff (hkey : key.length = macSize) (r : Except PyExn Unit) :
    Verifies (.bytes key) db r ↔ r = verdict key db := by
  unfold Verifies
  rw [execOn_verifyIntegrity hkey]
  constructor
  · intro h
    obtain ⟨o, c, hexec, rfl⟩ := h
    simp only [Option.some.injEq, Prod.mk.injEq] at hexec
    rw [← hexec.1, result_outcomeOf]
  · intro h
    exact ⟨_, _, rfl, h.trans (result_outcomeOf _).symm⟩

/-- The rows of an accepted table are verified as the rows of a table of the audit log. -/
theorem verdict_ok_iff {t : StoredTable} (htable : db.table? Audit.tableName = some t)
    (hnames : t.schema.columnNames = Audit.schemaColumns) :
    verdict key db = .ok () ↔
      Genuine key (ordered (t.rows.map (auditRow Audit.schemaColumns))) := by
  have hselect : selectRows db =
      .ok (fetchRows (t.rows.map (auditRow Audit.schemaColumns))) := by
    simp [selectRows, htable, hnames]
  rw [verdict, mapError_ok_iff, hselect]
  exact verifyRows_genuine_iff _

/-- Verification accepts a recorded chain. -/
theorem RecordedChain.verified (h : RecordedChain key records db) : verdict key db = .ok () := by
  rw [verdict_ok_iff h.holding.table (created_columnNames .audit)]
  have hrows : (records.map fun r => (recordRow r).values).map (auditRow Audit.schemaColumns) =
      records.map recordRow := by
    rw [List.map_map]
    exact List.map_congr_left fun r _ => auditRow_values _
  change Genuine key (ordered (List.map _ (List.map _ records)))
  rw [hrows]
  have hordered : ordered (records.map recordRow) = records.map recordRow := by
    apply orderBy_of_pairwise
    have hnumbers := h.chained.numbers
    rw [List.pairwise_map]
    have hsorted : (records.map auditChaining.number).Pairwise (· ≤ ·) := by
      rw [hnumbers, List.pairwise_map]
      apply List.Pairwise.imp _ List.pairwise_lt_range
      intro i j hij
      omega
    rw [List.pairwise_map] at hsorted
    exact hsorted.imp fun hle => (integer_le_integer _ _).mpr hle
  rw [hordered]
  exact ⟨records, rfl, h.authentic, h.chained⟩

end Verifying

end PamMvp.RecordedChains
