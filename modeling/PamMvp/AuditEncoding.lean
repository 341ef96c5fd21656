import PamMvp.DomainModel
import PamMvp.JsonText
import PamMvp.Sha256
import PamMvp.SqliteValues

/-!
# Audit events as signed bytes

An event is serialised to texts, the texts and the sequence number to canonical
JSON, and the JSON followed by the MAC of the row before is what a row's own MAC
authenticates. The signed bytes determine the sequence number, every text and
the previous MAC.
-/
namespace PamMvp.AuditEncoding
open PythonText DateTimes DomainModel JsonText Sha256

/-- Any Python object in a field of an event. -/
inductive FieldObject where
  | none
  | str (s : PyStr)
  | datetime (d : DateTime)
  | eventType (t : AuditEventType)
  | other
  deriving DecidableEq

/-- A member of the `StrEnum` is a text: it equals its value, and is encoded and bound as it. -/
def FieldObject.plain : FieldObject → FieldObject
  | .eventType t => .str t.value
  | o => o

/-- An `AuditEvent` as `append` may receive it: nothing checks the field types. -/
structure EventObject where
  id : FieldObject
  timestamp : FieldObject
  eventType : FieldObject
  actorUserId : FieldObject
  targetId : FieldObject
  sessionId : FieldObject
  result : FieldObject
  reasonCode : FieldObject
  deriving DecidableEq

inductive AppendArgument where
  | auditEvent (event : EventObject)
  | other
  deriving DecidableEq

/-- The tuple that `_serialize` returns. -/
structure EventFields where
  eventId : PyStr
  timestamp : PyStr
  eventType : PyStr
  actorUserId : PyStr
  targetId : PyStr
  sessionId : Option PyStr
  result : PyStr
  reasonCode : Option PyStr
  deriving DecidableEq

def unsupportedFieldValues : PyExn :=
  raised .auditStorageError (py "audit event contains unsupported field values")

def requireStr (o : FieldObject) : Except PyExn PyStr :=
  match o.plain with
  | .str s => .ok s
  | _ => .error unsupportedFieldValues

def requireOptionalStr (o : FieldObject) : Except PyExn (Option PyStr) :=
  match o.plain with
  | .none => .ok none
  | .str s => .ok (some s)
  | _ => .error unsupportedFieldValues

def requireEventType : FieldObject → Except PyExn AuditEventType
  | .eventType t => .ok t
  | _ => .error unsupportedFieldValues

def requireDatetime : FieldObject → Except PyExn DateTime
  | .datetime d => .ok d
  | _ => .error unsupportedFieldValues

/-- `astimezone(UTC)` can overflow, and only a `TypeError` or a `ValueError` is caught. -/
def utcTimestamp (timestamp : DateTime) : Except PyExn PyStr :=
  if !timestamp.aware then
    .error (raised .auditStorageError (py "audit event contains an invalid timestamp"))
  else match timestamp.toUtc with
    | some utc => .ok (isoformatUtc utc)
    | none => .error (raised .overflowError (py "date value out of range"))

def serialize : AppendArgument → Except PyExn EventFields
  | .other => .error (raised .auditStorageError (py "unsupported audit event"))
  | .auditEvent event => do
    let id ← requireStr event.id
    let actorUserId ← requireStr event.actorUserId
    let targetId ← requireStr event.targetId
    let result ← requireStr event.result
    let sessionId ← requireOptionalStr event.sessionId
    let reasonCode ← requireOptionalStr event.reasonCode
    let eventType ← requireEventType event.eventType
    let timestamp ← requireDatetime event.timestamp
    let timestamp ← utcTimestamp timestamp
    return ⟨id, timestamp, eventType.value, actorUserId, targetId, sessionId, result, reasonCode⟩

def genesisMac : Bytes := List.replicate 32 0

def macSize : ℕ := 32

def optionalScalar : Option PyStr → JsonScalar
  | none => .null
  | some s => .str s

def canonicalFields (sequenceNo : ℤ) (fields : EventFields) : List (PyStr × JsonScalar) :=
  [(py "sequence_no", .int sequenceNo),
    (py "id", .str fields.eventId),
    (py "timestamp", .str fields.timestamp),
    (py "event_type", .str fields.eventType),
    (py "actor_user_id", .str fields.actorUserId),
    (py "target_id", .str fields.targetId),
    (py "session_id", optionalScalar fields.sessionId),
    (py "result", .str fields.result),
    (py "reason_code", optionalScalar fields.reasonCode)]

/-- A text that has no UTF-8 encoding makes `encode` raise. -/
def canonicalEventBytes (sequenceNo : ℤ) (fields : EventFields) : Except PyExn Bytes :=
  match encodeUtf8 (dumps (canonicalFields sequenceNo fields)) with
  | some data => .ok data
  | none => .error (raised .unicodeEncodeError (py "surrogates not allowed"))

def calculateEventMac (key canonicalEvent previousMac : Bytes) : Bytes :=
  hmacSha256 key (canonicalEvent ++ previousMac)

/-- `hmac.compare_digest`. -/
def macsMatch (actual expected : Bytes) : Bool := actual = expected

/-- A row that has the types and sizes of a chained row. -/
structure ChainRecord where
  sequenceNo : ℤ
  fields : EventFields
  previousMac : Bytes
  eventMac : Bytes
  previousMac_length : previousMac.length = macSize
  eventMac_length : eventMac.length = macSize
  deriving DecidableEq

/-- The bytes that the MAC of the row authenticates. -/
def ChainRecord.message (r : ChainRecord) : Except PyExn Bytes := do
  let canonical ← canonicalEventBytes r.sequenceNo r.fields
  return canonical ++ r.previousMac

/-- The row carries the MAC of its own contents. -/
def ChainRecord.Authentic (key : Bytes) (r : ChainRecord) : Prop :=
  ∃ message, r.message = .ok message ∧ r.eventMac = hmacSha256 key message

theorem genesisMac_length : genesisMac.length = macSize := rfl

theorem calculateEventMac_length (key canonicalEvent previousMac : Bytes) :
    (calculateEventMac key canonicalEvent previousMac).length = macSize :=
  hmacSha256_length _ _

theorem canonicalEventBytes_ok_iff (sequenceNo : ℤ) (fields : EventFields) (data : Bytes) :
    canonicalEventBytes sequenceNo fields = .ok data ↔
      encodable (dumps (canonicalFields sequenceNo fields)) = true ∧
        data = utf8 (dumps (canonicalFields sequenceNo fields)) := by
  unfold canonicalEventBytes encodeUtf8
  cases encodable (dumps (canonicalFields sequenceNo fields)) with
  | false => simp
  | true => simp [eq_comm]

theorem optionalScalar_injective : Function.Injective optionalScalar := by
  intro s t h
  cases s with
  | none =>
    cases t with
    | none => rfl
    | some t => cases h
  | some s =>
    cases t with
    | none => cases h
    | some t =>
      cases h
      rfl

theorem canonicalFields_injective {m n : ℤ} {f g : EventFields}
    (h : canonicalFields m f = canonicalFields n g) : m = n ∧ f = g := by
  simp only [canonicalFields, List.cons.injEq, Prod.mk.injEq, JsonScalar.int.injEq,
    JsonScalar.str.injEq, optionalScalar_injective.eq_iff, true_and, and_true] at h
  obtain ⟨hnumber, hid, htime, htype, hactor, htarget, hsession, hresult, hreason⟩ := h
  refine ⟨hnumber, ?_⟩
  cases f
  cases g
  simp only [EventFields.mk.injEq]
  exact ⟨hid, htime, htype, hactor, htarget, hsession, hresult, hreason⟩

theorem canonicalEventBytes_injective {m n : ℤ} {f g : EventFields} {data : Bytes}
    (hf : canonicalEventBytes m f = .ok data) (hg : canonicalEventBytes n g = .ok data) :
    m = n ∧ f = g := by
  obtain ⟨hfe, hfd⟩ := (canonicalEventBytes_ok_iff m f data).mp hf
  obtain ⟨hge, hgd⟩ := (canonicalEventBytes_ok_iff n g data).mp hg
  have htext := utf8_injective hfe hge (hfd.symm.trans hgd)
  exact canonicalFields_injective (dumps_injective htext)

theorem ChainRecord.message_ok_iff (r : ChainRecord) (message : Bytes) :
    r.message = .ok message ↔ ∃ canonical,
      canonicalEventBytes r.sequenceNo r.fields = .ok canonical ∧
      message = canonical ++ r.previousMac := by
  simp only [ChainRecord.message, except_bind_ok_iff, pure, Except.pure, Except.ok.injEq]
  exact exists_congr fun _ => and_congr_right fun _ => eq_comm

/-- Rows with the same signed bytes differ at most in their own MAC. -/
theorem ChainRecord.eq_of_message {r s : ChainRecord} {message : Bytes}
    (hr : r.message = .ok message) (hs : s.message = .ok message)
    (hmac : r.eventMac = s.eventMac) : r = s := by
  obtain ⟨cr, hcr, hmr⟩ := (r.message_ok_iff message).mp hr
  obtain ⟨cs, hcs, hms⟩ := (s.message_ok_iff message).mp hs
  have hlen : r.previousMac.length = s.previousMac.length :=
    r.previousMac_length.trans s.previousMac_length.symm
  obtain ⟨hcanonical, hprevious⟩ := List.append_inj' (hmr.symm.trans hms) hlen
  rw [hcanonical] at hcr
  obtain ⟨hnumber, hfields⟩ := canonicalEventBytes_injective hcr hcs
  cases r
  cases s
  simp_all

end PamMvp.AuditEncoding
