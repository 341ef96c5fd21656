import PamMvp.AuditEncoding
import PamMvp.TimestampTexts

/-!
# What the signed bytes of an event determine

The canonical bytes of an event followed by the previous MAC determine the sequence
number, the MAC, every text of the event and the instant of its timestamp, and they
depend on nothing else.
-/
namespace PamMvp.SignedBytes
open PythonText DateTimes DomainModel JsonText AuditEncoding TimestampTexts

/-- The two events agree in every field, and in the instant of their timestamps. -/
structure SameEvent (e e' : EventObject) : Prop where
  id : e.id.plain = e'.id.plain
  eventType : e.eventType = e'.eventType
  actorUserId : e.actorUserId.plain = e'.actorUserId.plain
  targetId : e.targetId.plain = e'.targetId.plain
  sessionId : e.sessionId.plain = e'.sessionId.plain
  result : e.result.plain = e'.result.plain
  reasonCode : e.reasonCode.plain = e'.reasonCode.plain
  instant : ∃ t t', e.timestamp = .datetime t ∧ e'.timestamp = .datetime t' ∧
    t.instant = t'.instant

/-- A text field of Unicode characters, without surrogates. -/
def IsUnicode : FieldObject → Prop
  | .str s => encodable s = true
  | _ => True

/-- All texts of the event are Unicode. -/
structure UnicodeTexts (e : EventObject) : Prop where
  id : IsUnicode e.id.plain
  actorUserId : IsUnicode e.actorUserId.plain
  targetId : IsUnicode e.targetId.plain
  sessionId : IsUnicode e.sessionId.plain
  result : IsUnicode e.result.plain
  reasonCode : IsUnicode e.reasonCode.plain

def optionalField : Option PyStr → FieldObject
  | none => .none
  | some s => .str s

/-- The event holds the objects that the fields were taken from. -/
structure Serializes (e : EventObject) (f : EventFields) : Prop where
  id : e.id.plain = .str f.eventId
  actorUserId : e.actorUserId.plain = .str f.actorUserId
  targetId : e.targetId.plain = .str f.targetId
  result : e.result.plain = .str f.result
  sessionId : e.sessionId.plain = optionalField f.sessionId
  reasonCode : e.reasonCode.plain = optionalField f.reasonCode
  eventType : ∃ t : AuditEventType, e.eventType = .eventType t ∧ f.eventType = t.value
  timestamp : ∃ t u, e.timestamp = .datetime t ∧ t.toUtc = some u ∧ f.timestamp = isoformatUtc u

section Serialize

theorem requireStr_ok_iff (o : FieldObject) (s : PyStr) :
    requireStr o = .ok s ↔ o.plain = .str s := by
  cases o <;> simp [requireStr, FieldObject.plain]

theorem requireOptionalStr_ok_iff (o : FieldObject) (s : Option PyStr) :
    requireOptionalStr o = .ok s ↔ o.plain = optionalField s := by
  cases o <;> cases s <;> simp [requireOptionalStr, optionalField, FieldObject.plain]

@[simp] theorem plain_optionalField (s : Option PyStr) :
    (optionalField s).plain = optionalField s := by
  cases s <;> rfl

theorem requireEventType_ok_iff (o : FieldObject) (t : AuditEventType) :
    requireEventType o = .ok t ↔ o = .eventType t := by
  cases o <;> simp [requireEventType]

theorem requireDatetime_ok_iff (o : FieldObject) (d : DateTime) :
    requireDatetime o = .ok d ↔ o = .datetime d := by
  cases o <;> simp [requireDatetime]

theorem utcTimestamp_ok {d : DateTime} {s : PyStr} (h : utcTimestamp d = .ok s) :
    ∃ u, d.toUtc = some u ∧ s = isoformatUtc u := by
  unfold utcTimestamp at h
  split_ifs at h
  cases hutc : d.toUtc with
  | none =>
    rw [hutc] at h
    cases h
  | some u =>
    rw [hutc] at h
    exact ⟨u, rfl, (Except.ok.inj h).symm⟩

theorem serialize_ok {e : EventObject} {f : EventFields} (h : serialize (.auditEvent e) = .ok f) :
    Serializes e f := by
  simp only [serialize, except_bind_ok_iff, requireStr_ok_iff, requireOptionalStr_ok_iff,
    requireEventType_ok_iff, requireDatetime_ok_iff, pure, Except.pure, Except.ok.injEq] at h
  obtain ⟨id, hid, actor, hactor, target, htarget, result, hresult, session, hsession, reason,
    hreason, eventType, htype, time, htime, text, htext, rfl⟩ := h
  obtain ⟨u, hu, hiso⟩ := utcTimestamp_ok htext
  exact ⟨hid, hactor, htarget, hresult, hsession, hreason, ⟨eventType, htype, rfl⟩,
    ⟨time, u, htime, hu, hiso⟩⟩

theorem eventType_value_injective : Function.Injective AuditEventType.value := by
  intro t t' h
  cases t <;> cases t' <;> first | rfl | exact absurd h (by decide)

theorem toUtc_of_instant {t t' u u' : DateTime} (hu : t.toUtc = some u) (hu' : t'.toUtc = some u')
    (h : t.instant = t'.instant) : u = u' := by
  unfold DateTime.toUtc at hu hu'
  split_ifs at hu hu'
  cases hu
  cases hu'
  simp only [h]

/-- Events have the same fields exactly when they are the same event. -/
theorem Serializes.eq_iff {e e' : EventObject} {f f' : EventFields} (h : Serializes e f)
    (h' : Serializes e' f') : f = f' ↔ SameEvent e e' := by
  obtain ⟨t, u, ht, hu, htext⟩ := h.timestamp
  obtain ⟨t', u', ht', hu', htext'⟩ := h'.timestamp
  obtain ⟨k, hk, hkind⟩ := h.eventType
  obtain ⟨k', hk', hkind'⟩ := h'.eventType
  constructor
  · intro hf
    subst hf
    have hsame := isoformatUtc_injective (DateTime.toUtc_instant hu).1
      (DateTime.toUtc_instant hu').1 (htext.symm.trans htext')
    refine ⟨h.id.trans h'.id.symm, ?_, h.actorUserId.trans h'.actorUserId.symm,
      h.targetId.trans h'.targetId.symm, h.sessionId.trans h'.sessionId.symm,
      h.result.trans h'.result.symm, h.reasonCode.trans h'.reasonCode.symm, t, t', ht, ht', ?_⟩
    · rw [hk, hk', eventType_value_injective (hkind.symm.trans hkind')]
    · rw [← (DateTime.toUtc_instant hu).2, ← (DateTime.toUtc_instant hu').2, hsame]
  · intro hsame
    have hoptional : Function.Injective optionalField := by
      intro s s' hs
      cases s <;> cases s' <;> simp_all [optionalField]
    obtain ⟨d, d', hd, hd', hinstant⟩ := hsame.instant
    rw [ht] at hd
    rw [ht'] at hd'
    cases hd
    cases hd'
    have hid := FieldObject.str.inj (h.id.symm.trans (hsame.id.trans h'.id))
    have hactor := FieldObject.str.inj
      (h.actorUserId.symm.trans (hsame.actorUserId.trans h'.actorUserId))
    have htarget := FieldObject.str.inj (h.targetId.symm.trans (hsame.targetId.trans h'.targetId))
    have hresult := FieldObject.str.inj (h.result.symm.trans (hsame.result.trans h'.result))
    have hsession := hoptional (h.sessionId.symm.trans (hsame.sessionId.trans h'.sessionId))
    have hreason := hoptional (h.reasonCode.symm.trans (hsame.reasonCode.trans h'.reasonCode))
    have hkinds := FieldObject.eventType.inj (hk.symm.trans (hsame.eventType.trans hk'))
    rw [← hkinds, ← hkind] at hkind'
    rw [← toUtc_of_instant hu hu' hinstant, ← htext] at htext'
    cases f
    cases f'
    simp_all

end Serialize

section Encode

/-- The bytes exist exactly for Unicode texts. -/
theorem canonicalEventBytes_isOk_iff {e : EventObject} {f : EventFields} (h : Serializes e f)
    (n : ℤ) : (∃ data, canonicalEventBytes n f = .ok data) ↔ UnicodeTexts e := by
  have hoptional (s : Option PyStr) :
      (optionalScalar s).encodes = true ↔ IsUnicode (optionalField s) := by
    cases s <;> simp [optionalScalar, optionalField, JsonScalar.encodes, IsUnicode]
  have htime : encodable f.timestamp = true := by
    obtain ⟨-, u, -, -, htext⟩ := h.timestamp
    rw [htext]
    exact isoformatUtc_encodable u
  have htype : encodable f.eventType = true := by
    obtain ⟨t, -, htext⟩ := h.eventType
    rw [htext]
    cases t <;> exact encodable_py _
  have hbytes : (∃ data, canonicalEventBytes n f = .ok data) ↔
      encodable (dumps (canonicalFields n f)) = true := by
    simp only [canonicalEventBytes_ok_iff]
    constructor
    · intro hdata
      obtain ⟨_, hd, -⟩ := hdata
      exact hd
    · intro hd
      exact ⟨_, hd, rfl⟩
  rw [hbytes, dumps_encodable]
  simp only [canonicalFields, List.all_cons, List.all_nil, encodable_py, encodes_int, encodes_str,
    htime, htype, Bool.true_and, Bool.and_true, Bool.and_eq_true, hoptional]
  constructor
  · intro hall
    obtain ⟨hid, hactor, htarget, hsession, hresult, hreason⟩ := hall
    exact ⟨by rw [h.id]; exact hid, by rw [h.actorUserId]; exact hactor,
      by rw [h.targetId]; exact htarget, by rw [h.sessionId]; exact hsession,
      by rw [h.result]; exact hresult, by rw [h.reasonCode]; exact hreason⟩
  · intro hall
    obtain ⟨hid, hactor, htarget, hsession, hresult, hreason⟩ := hall
    rw [h.id] at hid
    rw [h.actorUserId] at hactor
    rw [h.targetId] at htarget
    rw [h.sessionId] at hsession
    rw [h.result] at hresult
    rw [h.reasonCode] at hreason
    exact ⟨hid, hactor, htarget, hsession, hresult, hreason⟩

/-- For accepted events the signed bytes exist exactly when all texts are Unicode, and
they are equal exactly for equal sequence numbers, equal previous MACs and events that
agree in every field and in the instant of their timestamps. -/
theorem signed_bytes_eq_iff {e₁ e₂ : EventObject} {f₁ f₂ : EventFields}
    (h₁ : serialize (.auditEvent e₁) = .ok f₁) (h₂ : serialize (.auditEvent e₂) = .ok f₂)
    (n₁ n₂ : ℤ) {p₁ p₂ : Bytes} (hp₁ : p₁.length = macSize) (hp₂ : p₂.length = macSize) :
    ((∃ d, canonicalEventBytes n₁ f₁ = .ok d) ↔ UnicodeTexts e₁) ∧
    ((∃ d, canonicalEventBytes n₂ f₂ = .ok d) ↔ UnicodeTexts e₂) ∧
    ∀ d₁ d₂, canonicalEventBytes n₁ f₁ = .ok d₁ → canonicalEventBytes n₂ f₂ = .ok d₂ →
      (d₁ ++ p₁ = d₂ ++ p₂ ↔ n₁ = n₂ ∧ p₁ = p₂ ∧ SameEvent e₁ e₂) := by
  have hs₁ := serialize_ok h₁
  have hs₂ := serialize_ok h₂
  refine ⟨canonicalEventBytes_isOk_iff hs₁ n₁, canonicalEventBytes_isOk_iff hs₂ n₂, ?_⟩
  intro d₁ d₂ hd₁ hd₂
  rw [← hs₁.eq_iff hs₂]
  constructor
  · intro h
    obtain ⟨hdata, hprevious⟩ := List.append_inj' h (hp₁.trans hp₂.symm)
    rw [← hdata] at hd₂
    obtain ⟨hnumber, hfields⟩ := canonicalEventBytes_injective hd₁ hd₂
    exact ⟨hnumber, hprevious, hfields⟩
  · intro h
    obtain ⟨rfl, rfl, rfl⟩ := h
    rw [Except.ok.inj (hd₁.symm.trans hd₂)]

end Encode

section Example

/-- One event, written down in UTC and two hours further east. -/
def utcEvent : EventObject :=
  ⟨.str (py "e-1"), .datetime (.utc 63871286400000000 newYear2025_lt),
    .eventType .accessDenied, .str (py "alice"), .str (py "db"), .none, .str (py "denied"),
    .str (py "null")⟩

def easternEvent : EventObject :=
  { utcEvent with
    timestamp := .datetime ⟨63871293600000000, some (.other 0), some 7200000000, by decide,
      by decide, by simp, by simp⟩ }

def utcFields : EventFields :=
  ⟨py "e-1", py "2025-01-01T00:00:00.000000Z", py "access_denied", py "alice", py "db", none,
    py "denied", some (py "null")⟩

theorem signed_bytes_eq_iff_example : SameEvent utcEvent easternEvent ∧ UnicodeTexts utcEvent := by
  have hutc : serialize (.auditEvent utcEvent) = .ok utcFields := by decide +kernel
  have heastern : serialize (.auditEvent easternEvent) = .ok utcFields := by decide +kernel
  have h := signed_bytes_eq_iff hutc heastern 1 1 genesisMac_length genesisMac_length
  have hbytes : ∃ d, canonicalEventBytes 1 utcFields = .ok d := by
    simp only [canonicalEventBytes_ok_iff]
    exact ⟨_, by decide +kernel, rfl⟩
  obtain ⟨d, hd⟩ := hbytes
  exact ⟨((h.2.2 d d hd hd).mp rfl).2.2, h.1.mp ⟨d, hd⟩⟩

end Example

end PamMvp.SignedBytes
