import PamMvp.CreatedTables
import PamMvp.SignedBytes

/-!
# Events in a created audit table

The rows of a created audit table are numbered from one, and each carries a MAC of the
right size. As long as the numbers fit and the id is new, the next event whose texts are
Unicode is recorded, and an event with any other text is refused.
-/
namespace PamMvp.RecordedEvents
open PythonText DateTimes DomainModel SqliteValues SqliteParameters TableConstraints AdapterSchemas
  EnforcedUniqueness AuditEncoding AuditRepository TimestampTexts SignedBytes CreatedTables

/-- The `AuditEvent` that the access service hands to `append`. -/
def eventObject (event : AuditEvent) : EventObject where
  id := .str event.id
  timestamp := .datetime event.timestamp
  eventType := .eventType event.eventType
  actorUserId := .str event.actorUserId
  targetId := .str event.targetId
  sessionId := optionalField event.sessionId
  result := .str event.result
  reasonCode := optionalField event.reasonCode

/-- `ORDER BY sequence_no DESC LIMIT 1`. -/
def newest : HeadChoice := fun rows =>
  (orderBy (fun row => valueOf Audit.schemaColumns row (py "sequence_no")) rows).getLast?

/-- A row with this number, one of the ids, and a MAC of the right size. -/
structure Recorded (ids : List PyStr) (n : ℕ) (row : List SqlValue) : Prop where
  number : valueOf Audit.schemaColumns row (py "sequence_no") = .integer n
  id : ∃ id ∈ ids, encodable id = true ∧
    valueOf Audit.schemaColumns row (py "id") = .text (utf8 id)
  mac : ∃ mac, mac.length = macSize ∧
    valueOf Audit.schemaColumns row (py "event_mac") = .blob mac

/-- Recorded rows, numbered from one. -/
inductive Numbered (ids : List PyStr) : ℕ → List (List SqlValue) → Prop where
  | nil : Numbered ids 0 []
  | concat {n : ℕ} {rows : List (List SqlValue)} {row : List SqlValue}
    (h : Numbered ids n rows) (hrow : Recorded ids (n + 1) row) :
    Numbered ids (n + 1) (rows ++ [row])

/-- The table that the repository created, with `n` rows and ids among these. -/
def Trail (ids : List PyStr) (n : ℕ) (db : Database) : Prop :=
  ∃ rows, Holding .audit db rows ∧ Numbered ids n rows

section Rows

variable {ids ids' : List PyStr} {n : ℕ} {rows : List (List SqlValue)} {row : List SqlValue}

theorem Recorded.mono (h : Recorded ids n row) (hids : ∀ id ∈ ids, id ∈ ids') :
    Recorded ids' n row := by
  obtain ⟨id, hid, hvalue⟩ := h.id
  exact ⟨h.number, ⟨id, hids id hid, hvalue⟩, h.mac⟩

theorem Numbered.mono (h : Numbered ids n rows) (hids : ∀ id ∈ ids, id ∈ ids') :
    Numbered ids' n rows := by
  induction h with
  | nil => exact .nil
  | concat _ hrow ih => exact .concat ih (hrow.mono hids)

theorem Numbered.mem (h : Numbered ids n rows) :
    ∀ row ∈ rows, ∃ k, k ≤ n ∧ Recorded ids k row := by
  induction h with
  | nil => simp
  | @concat n rows row _ hrow ih =>
    intro r hr
    rcases List.mem_append.mp hr with hr | hr
    · obtain ⟨k, hk, hrecorded⟩ := ih r hr
      exact ⟨k, by omega, hrecorded⟩
    · rw [List.mem_singleton.mp hr]
      exact ⟨n + 1, le_rfl, hrow⟩

/-- What `append` reads before it builds the next row. -/
def lastLink (n : ℕ) (mac : Bytes) : Option (List PyValue) :=
  if n = 0 then none else some [.int n, .bytes mac]

/-- The row of the largest number is the last one. -/
theorem newest_numbered (h : Numbered ids n rows) :
    (n = 0 ∧ newest rows = none) ∨ ∃ row, newest rows = some row ∧ Recorded ids n row := by
  cases h with
  | nil => exact .inl ⟨rfl, rfl⟩
  | @concat n rows row h hrow =>
    right
    refine ⟨row, ?_, hrow⟩
    rw [newest, orderBy_append_last, List.getLast?_concat]
    intro r hr
    obtain ⟨k, hk, hrecorded⟩ := h.mem r hr
    rw [hrecorded.number, hrow.number, integer_le_integer]
    omega

theorem readHead_trail {db : Database} (hholding : Holding .audit db rows)
    (h : Numbered ids n rows) :
    ∃ mac, mac.length = macSize ∧ readHead newest db = .ok (lastLink n mac) := by
  have htable : db.table? Audit.tableName = some ⟨Audit.created, rows⟩ := hholding.table
  have hnames : Audit.created.columnNames = Audit.schemaColumns := created_columnNames .audit
  rcases newest_numbered h with ⟨rfl, hnewest⟩ | ⟨row, hnewest, hrow⟩
  · refine ⟨genesisMac, rfl, ?_⟩
    simp [readHead, htable, hnewest, lastLink]
  · obtain ⟨mac, hlength, hmac⟩ := hrow.mac
    refine ⟨mac, hlength, ?_⟩
    have hfetch : fetchTuple [.integer n, .blob mac] = .ok [.int n, .bytes mac] :=
      (fetchTuple_ok_iff _ _).mpr ⟨by simp [PyValue.encodes], rfl⟩
    have hpos : n ≠ 0 := by
      rintro rfl
      cases h
      cases hnewest
    simp only [readHead, htable, hnewest, hnames, hrow.number, hmac, hfetch, lastLink, hpos,
      if_false]
    rfl

theorem nextChainLink_lastLink {mac : Bytes} (hmac : mac.length = macSize) :
    ∃ previous, previous.length = macSize ∧
      nextChainLink (lastLink n mac) = .ok ((n : ℤ) + 1, previous) := by
  by_cases hn : n = 0
  · refine ⟨genesisMac, rfl, ?_⟩
    simp [lastLink, hn, nextChainLink]
  · refine ⟨mac, hmac, ?_⟩
    simp only [lastLink, hn, if_false, nextChainLink, hmac]
    rw [if_neg]
    simp
    omega

end Rows

section Events

variable {ids : List PyStr} {n : ℕ} {event : AuditEvent} {u : DateTime} {key : Bytes}
  {db db' : Database}

/-- The fields of an event with a timestamp that has a UTC date. -/
def fieldsOf (event : AuditEvent) (u : DateTime) : EventFields where
  eventId := event.id
  timestamp := isoformatUtc u
  eventType := event.eventType.value
  actorUserId := event.actorUserId
  targetId := event.targetId
  sessionId := event.sessionId
  result := event.result
  reasonCode := event.reasonCode

theorem serialize_event (haware : event.timestamp.aware = true)
    (hu : event.timestamp.toUtc = some u) :
    serialize (.auditEvent (eventObject event)) = .ok (fieldsOf event u) := by
  have hsession := (requireOptionalStr_ok_iff _ _).mpr (plain_optionalField event.sessionId)
  have hreason := (requireOptionalStr_ok_iff _ _).mpr (plain_optionalField event.reasonCode)
  simp only [serialize, eventObject, requireStr, requireEventType, requireDatetime, utcTimestamp,
    haware, hu, hsession, hreason, bind, Except.bind]
  rfl

theorem serialize_event_id {fields : EventFields}
    (h : serialize (.auditEvent (eventObject event)) = .ok fields) : fields.eventId = event.id :=
  (FieldObject.str.inj (serialize_ok h).id).symm

/-- The row of an event, chained to `previous`. -/
def rowOf (n : ℕ) (fields : EventFields) (previous mac : Bytes) : AuditColumns PyValue :=
  ⟨.int (n + 1), .str fields.eventId, .str fields.timestamp, .str fields.eventType,
    .str fields.actorUserId, .str fields.targetId, optionalValue fields.sessionId,
    .str fields.result, optionalValue fields.reasonCode, .bytes previous, .bytes mac⟩

theorem nextColumns_lastLink {head : Option (List PyValue)} {previous : Bytes}
    {fields : EventFields} {row : AuditColumns PyValue}
    (hlink : nextChainLink head = .ok ((n : ℤ) + 1, previous))
    (h : nextColumns key fields head = .ok row) :
    ∃ mac, mac.length = macSize ∧ row = rowOf n fields previous mac := by
  simp only [nextColumns, hlink, except_bind_ok_iff, pure, Except.pure, Except.ok.injEq] at h
  obtain ⟨_, rfl, canonical, -, rfl⟩ := h
  exact ⟨_, calculateEventMac_length key canonical previous, rfl⟩

theorem rowOf_length (fields : EventFields) (previous mac : Bytes) :
    (rowOf n fields previous mac).values.length = Audit.schemaColumns.length := rfl

theorem rowOf_recorded (ids : List PyStr) (n : ℕ) (fields : EventFields) (previous : Bytes)
    {mac : Bytes} (hmac : mac.length = macSize) (hid : encodable fields.eventId = true) :
    Recorded (fields.eventId :: ids) (n + 1)
      ((rowOf n fields previous mac).values.map PyValue.stored) where
  number := by
    push_cast
    rfl
  id := ⟨fields.eventId, by simp, hid, rfl⟩
  mac := ⟨mac, hmac, rfl⟩

/-- An event that was appended is the last one. -/
theorem append_trail {argument : AppendArgument} {fields : EventFields} {k : Bytes}
    {value : PyValue} (h : Trail ids n db) (hkey : checkKey value = .ok k)
    (hfields : serialize argument = .ok fields)
    (heffect : (Operation.append value argument).effect newest db = .ok db') :
    Trail (fields.eventId :: ids) (n + 1) db' := by
  obtain ⟨rows, hholding, hnumbered⟩ := h
  obtain ⟨mac, hmac, hhead⟩ := readHead_trail hholding hnumbered
  obtain ⟨previous, -, hlink⟩ := nextChainLink_lastLink (n := n) hmac
  simp only [Operation.effect, hkey, hfields, except_bind_ok_iff, mapError_ok_iff, Except.ok.injEq,
    exists_eq_left', hhead] at heffect
  obtain ⟨row, hrow, hinsert⟩ := heffect
  obtain ⟨mac, hmac, rfl⟩ := nextColumns_lastLink hlink hrow
  obtain ⟨hvalues, hholding'⟩ := hholding.insert_ok (rowOf_length fields previous mac) hinsert
  have hid : encodable fields.eventId = true := (hvalues (.str fields.eventId) (by simp [rowOf,
    AuditColumns.values])).2
  refine ⟨_, hholding', .concat (hnumbered.mono fun id hid => List.mem_cons_of_mem _ hid) ?_⟩
  exact rowOf_recorded _ _ _ _ hmac hid

/-- Two rows with different values in the column of a constraint are not in its way. -/
theorem uniqueOn_free {names : List PyStr} {column : String} {row r : List SqlValue}
    (h : valueOf names row (py column) ≠ valueOf names r (py column)) :
    (uniqueOn column).conflicts names row r = false ∧
      (primaryKeyOn column).conflicts names row r = false := by
  simp [uniqueOn, primaryKeyOn, Constraint.conflicts, Constraint.parts, Constraint.covers,
    Part.value, Part.collate, h]

theorem numbered_free {rows : List (List SqlValue)} (hnumbered : Numbered ids n rows)
    {row : List SqlValue} {id : PyStr}
    (hnumber : valueOf Audit.schemaColumns row (py "sequence_no") = .integer (n + 1))
    (hid : valueOf Audit.schemaColumns row (py "id") = .text (utf8 id))
    (hencodes : encodable id = true) (hfresh : id ∉ ids) :
    ∀ c ∈ Audit.created.constraints, rows.any (c.conflicts Audit.schemaColumns row) = false := by
  have hfree : ∀ r ∈ rows, (uniqueOn "sequence_no").conflicts Audit.schemaColumns row r = false ∧
      (primaryKeyOn "id").conflicts Audit.schemaColumns row r = false := by
    intro r hr
    obtain ⟨k, hk, hrecorded⟩ := hnumbered.mem r hr
    obtain ⟨other, hother, hotherEncodes, hotherId⟩ := hrecorded.id
    refine ⟨(uniqueOn_free ?_).1, (uniqueOn_free ?_).2⟩
    · rw [hnumber, hrecorded.number, ne_eq, SqlValue.integer.injEq]
      omega
    · rw [hid, hotherId, ne_eq, SqlValue.text.injEq]
      intro hbytes
      exact hfresh (utf8_injective hencodes hotherEncodes hbytes ▸ hother)
  intro c hc
  rw [List.any_eq_false]
  intro r hr
  simp only [Audit.created, List.mem_cons, List.not_mem_nil, or_false] at hc
  rcases hc with rfl | rfl
  · simp [(hfree r hr).1]
  · simp [(hfree r hr).2]

/-- Everything that is bound for a Unicode event fits and has an encoding. -/
theorem rowOf_fits {fields : EventFields} {e : EventObject} (hserializes : Serializes e fields)
    (hunicode : UnicodeTexts e) (hroom : (n : ℤ) + 1 < 2 ^ 63) (previous mac : Bytes) :
    ∀ v ∈ (rowOf n fields previous mac).values, v.fits = true ∧ v.encodes = true := by
  have hoptional (s : Option PyStr) (h : IsUnicode (optionalField s)) :
      (optionalValue s).fits = true ∧ (optionalValue s).encodes = true := by
    cases s with
    | none => exact ⟨rfl, rfl⟩
    | some s => exact ⟨rfl, h⟩
  have htime : encodable fields.timestamp = true := by
    obtain ⟨-, u, -, -, htext⟩ := hserializes.timestamp
    rw [htext]
    exact isoformatUtc_encodable u
  have htype : encodable fields.eventType = true := by
    obtain ⟨t, -, htext⟩ := hserializes.eventType
    rw [htext]
    cases t <;> exact encodable_py _
  have hid := hunicode.id
  have hactor := hunicode.actorUserId
  have htarget := hunicode.targetId
  have hresult := hunicode.result
  have hsession := hunicode.sessionId
  have hreason := hunicode.reasonCode
  rw [hserializes.id] at hid
  rw [hserializes.actorUserId] at hactor
  rw [hserializes.targetId] at htarget
  rw [hserializes.result] at hresult
  rw [hserializes.sessionId] at hsession
  rw [hserializes.reasonCode] at hreason
  have hnumber : (PyValue.int ((n : ℤ) + 1)).fits = true := by
    simp only [PyValue.fits, isInt64, Bool.and_eq_true, decide_eq_true_eq]
    omega
  intro v hv
  simp only [rowOf, AuditColumns.values, List.mem_cons, List.not_mem_nil, or_false] at hv
  rcases hv with rfl | rfl | rfl | rfl | rfl | rfl | rfl | rfl | rfl | rfl | rfl
  · exact ⟨hnumber, rfl⟩
  · exact ⟨rfl, hid⟩
  · exact ⟨rfl, htime⟩
  · exact ⟨rfl, htype⟩
  · exact ⟨rfl, hactor⟩
  · exact ⟨rfl, htarget⟩
  · exact hoptional _ hsession
  · exact ⟨rfl, hresult⟩
  · exact hoptional _ hreason
  · exact ⟨rfl, rfl⟩
  · exact ⟨rfl, rfl⟩

theorem rowOf_nullable (fields : EventFields) (previous mac : Bytes) :
    List.Forall₂ (fun (c : ColumnDef) v => v = .null → c.notNull = false) Audit.created.columns
      ((rowOf n fields previous mac).values.map PyValue.stored) := by
  simp [Audit.created, createdColumn, rowOf, AuditColumns.values, PyValue.stored]

variable (event) in
/-- A new event with Unicode texts is recorded. -/
theorem append_recorded (h : Trail ids n db) (hroom : (n : ℤ) + 1 < 2 ^ 63)
    (hkey : key.length = macSize) (haware : event.timestamp.aware = true)
    (hu : event.timestamp.toUtc = some u) (hunicode : UnicodeTexts (eventObject event))
    (hfresh : event.id ∉ ids) : ∃ db',
      (Operation.append (.bytes key) (.auditEvent (eventObject event))).effect newest db = .ok db' ∧
        Trail (event.id :: ids) (n + 1) db' := by
  have hfields := serialize_event haware hu
  have hserializes := serialize_ok hfields
  obtain ⟨rows, hholding, hnumbered⟩ := h
  obtain ⟨mac, hmac, hhead⟩ := readHead_trail hholding hnumbered
  obtain ⟨previous, -, hlink⟩ := nextChainLink_lastLink (n := n) hmac
  obtain ⟨canonical, hcanonical⟩ :=
    (canonicalEventBytes_isOk_iff hserializes ((n : ℤ) + 1)).mpr hunicode
  obtain ⟨eventMac, hlength, hrow⟩ : ∃ eventMac, eventMac.length = macSize ∧ nextColumns key
      (fieldsOf event u) (lastLink n mac) = .ok (rowOf n (fieldsOf event u) previous eventMac) := by
    refine ⟨_, calculateEventMac_length key canonical previous, ?_⟩
    simp only [nextColumns, hlink, hcanonical, bind, Except.bind]
    rfl
  have hid : encodable event.id = true := hunicode.id
  have hchecked : checkKey (.bytes key) = .ok key := by simp [checkKey, hkey]
  have hfits := rowOf_fits hserializes hunicode hroom previous eventMac
  have hrecorded := rowOf_recorded ids n (fieldsOf event u) previous hlength hid
  obtain ⟨db', hinsert, hholding'⟩ := hholding.insert hfits (rowOf_nullable _ _ _)
    (numbered_free hnumbered hrecorded.number rfl hid hfresh)
  refine ⟨db', ?_, _, hholding',
    .concat (hnumbered.mono fun id hid => List.mem_cons_of_mem _ hid) hrecorded⟩
  simp only [Operation.effect, hfields, hchecked, hhead, hrow, bind, Except.bind]
  rw [mapError_ok_iff]
  exact hinsert

/-- The error for a text that has no UTF-8 encoding. -/
def notChained : PyExn := raised .auditStorageError (py "audit event could not be chained")

variable (event) in
/-- An event with a lone surrogate in a text is refused. -/
theorem append_unencodable (h : Trail ids n db) (hkey : key.length = macSize)
    (haware : event.timestamp.aware = true) (hu : event.timestamp.toUtc = some u)
    (hunicode : ¬ UnicodeTexts (eventObject event)) :
    (Operation.append (.bytes key) (.auditEvent (eventObject event))).effect newest db =
      .error notChained := by
  have hfields := serialize_event haware hu
  obtain ⟨rows, hholding, hnumbered⟩ := h
  obtain ⟨mac, hmac, hhead⟩ := readHead_trail hholding hnumbered
  obtain ⟨previous, -, hlink⟩ := nextChainLink_lastLink (n := n) hmac
  have hnot : canonicalEventBytes ((n : ℤ) + 1) (fieldsOf event u) =
      .error (raised .unicodeEncodeError (py "surrogates not allowed")) := by
    unfold canonicalEventBytes
    cases hencode : encodeUtf8
      (JsonText.dumps (canonicalFields ((n : ℤ) + 1) (fieldsOf event u))) with
    | none => rfl
    | some data =>
      refine absurd ?_ hunicode
      rw [← canonicalEventBytes_isOk_iff (serialize_ok hfields) ((n : ℤ) + 1)]
      exact ⟨data, by simp [canonicalEventBytes, hencode]⟩
  have hchecked : checkKey (.bytes key) = .ok key := by simp [checkKey, hkey]
  simp only [Operation.effect, hfields, hchecked, hhead, nextColumns, hlink, hnot, bind,
    Except.bind]
  rfl

end Events

end PamMvp.RecordedEvents
