import PamMvp.RecordedEvents
import PamMvp.ServedPrograms
import PamMvp.WiredAccess

/-!
# Requests against the audit file

The access service appends to a file of its own while a request runs. Every event is
written by `SQLiteAuditRepository.append` into the table that the calls before it left,
so whether an append succeeds is computed and not assumed.
-/
namespace PamMvp.ServedAccess
open InteractionPrograms SharedPrograms ServedPrograms PythonText DateTimes DomainModel
  SqliteValues SqliteParameters SessionLifecycle PamCalls PolicyEvaluation PolicyStore
  ConfigurationDatabase CredentialVault AccessHandling AccessAuditTrail WiredAccess AdapterSchemas
  EnforcedUniqueness AuditEncoding SignedBytes RecordedEvents

/-- The audit file and the ids that were handed out or recorded. -/
structure AccessState where
  audit : Database
  used : List PyStr

/-- The answers of the production adapters. A new id is a text that no call has returned or
recorded before, and the clock shows UTC. -/
def Answers (rt : Runtime) (key : Bytes) : Server pamSignature AccessState
  | w, .newId, r, w' => ∃ id, r = .ok id ∧ blank id = false ∧ encodable id = true ∧
    id ∉ w.used ∧ w' = { w with used := id :: w.used }
  | w, .now, r, w' => (∃ t : DateTime, r = .ok t ∧ t.offset = some 0) ∧ w' = w
  | w, .append event, r, w' => ∃ db,
    (Operation.append (.bytes key) (.auditEvent (eventObject event))).perform newest w.audit =
      some (r, db) ∧ w' = ⟨db, event.id :: w.used⟩
  | w, c, r, w' => Wired rt ⟨c, r⟩ ∧ w' = w

/-- The state of the audit file between two calls. -/
def Recording (n : ℕ) (w : AccessState) : Prop := Trail w.used n w.audit

section Steps

variable {rt : Runtime} {key : Bytes} {w w' : AccessState} {n : ℕ} {ids : List PyStr}

theorem trail_mono {ids' : List PyStr} {db : Database} (h : Trail ids n db)
    (hids : ∀ id ∈ ids, id ∈ ids') : Trail ids' n db := by
  obtain ⟨rows, hholding, hnumbered⟩ := h
  exact ⟨rows, hholding, hnumbered.mono hids⟩

theorem utc_of_offset {t : DateTime} (h : t.offset = some 0) :
    t.aware = true ∧ ∃ u, t.toUtc = some u := by
  refine ⟨by simp [DateTime.aware, h], ?_⟩
  have hwall := t.wall_lt
  have hrange : 0 ≤ t.instant ∧ t.instant < maxOrdinal * daySize := by
    simp only [DateTime.instant, h, Option.getD_some]
    omega
  exact ⟨_, dif_pos hrange⟩

/-- The reply to an append is what the repository makes of the event. -/
theorem answers_append {event : AuditEvent} {r : Reply pamSignature (.append event)}
    (h : Answers rt key w (.append event) r w') :
    (∃ db, (Operation.append (.bytes key) (.auditEvent (eventObject event))).effect newest w.audit =
        .ok db ∧ r = .ok () ∧ w' = ⟨db, event.id :: w.used⟩) ∨
      ∃ e, (Operation.append (.bytes key) (.auditEvent (eventObject event))).effect newest w.audit =
        .error e ∧ r = .error e ∧ w' = ⟨w.audit, event.id :: w.used⟩ := by
  obtain ⟨db, hperform, rfl⟩ := h
  rw [perform_eq] at hperform
  cases heffect : (Operation.append (.bytes key) (.auditEvent (eventObject event))).effect newest
      w.audit with
  | error e =>
    simp only [heffect, Option.some.injEq, Prod.mk.injEq] at hperform
    obtain ⟨rfl, rfl⟩ := hperform
    exact .inr ⟨e, rfl, rfl, rfl⟩
  | ok db' =>
    simp only [heffect, Option.some.injEq, Prod.mk.injEq] at hperform
    obtain ⟨rfl, rfl⟩ := hperform
    exact .inl ⟨_, rfl, rfl, rfl⟩

/-- A call adds at most one row, and the rows before it stay. -/
theorem answers_recording (hkey : key.length = macSize) {c : PamCall} {r : Reply pamSignature c}
    (h : Recording n w) (hanswer : Answers rt key w c r w') :
    Recording n w' ∨ Recording (n + 1) w' := by
  cases c with
  | newId =>
    obtain ⟨id, -, -, -, -, rfl⟩ := hanswer
    exact .inl (trail_mono h fun id hid => List.mem_cons_of_mem _ hid)
  | now =>
    obtain ⟨-, rfl⟩ := hanswer
    exact .inl h
  | append event =>
    rcases answers_append hanswer with ⟨db, heffect, -, rfl⟩ | ⟨e, -, -, rfl⟩
    · have hchecked : AuditRepository.checkKey (.bytes key) = .ok key := by
        simp [AuditRepository.checkKey, hkey]
      have hserialized : ∃ fields, serialize (.auditEvent (eventObject event)) = .ok fields := by
        simp only [Operation.effect, except_bind_ok_iff] at heffect
        obtain ⟨fields, hfields, -⟩ := heffect
        exact ⟨fields, hfields⟩
      obtain ⟨fields, hfields⟩ := hserialized
      have htrail := append_trail h hchecked hfields heffect
      rw [serialize_event_id hfields] at htrail
      exact .inr htrail
    · exact .inl (trail_mono h fun id hid => List.mem_cons_of_mem _ hid)
  | _ =>
    obtain ⟨-, rfl⟩ := hanswer
    exact .inl h

/-- After any calls the audit file has at most as many rows more as there were calls. -/
theorem served_recording (hkey : key.length = macSize) {past : List PamEvent}
    (h : Recording n w) (hserved : ServedBy (Answers rt key) w past w') :
    ∃ k, k ≤ n + past.length ∧ Recording k w' :=
  hserved.bounded (I := Recording)
    (fun _ _ _ _ _ hrecording hanswer => answers_recording hkey hrecording hanswer) h

end Steps

section Appending

variable {rt : Runtime} {key : Bytes} {w : AccessState} {n : ℕ} {request : AccessRequest}
  {eventType : AuditEventType} {sessionId : Option PyStr} {result : PyStr}
  {reasonCode actorUserId : Option PyStr} {m : Memory}

theorem served_call_ok {α : Type} {c : PamCall} {f : c.Answer → Pam α} {a : c.Answer}
    {Q : List PamEvent → PamOutcome α → Memory → AccessState → Prop}
    (hc : ∀ r w', Answers rt key w c r w' → r = .ok a ∧ w' = w)
    (hf : EnsuresServed (Answers rt key) (f a) m w
      fun tr o m' w' => Q (⟨c, .ok a⟩ :: tr) o m' w') :
    EnsuresServed (Answers rt key) (ask c >>= f) m w Q := by
  refine ensuresServed_call_bind (fun b w' hanswer => ?_) fun e w' hanswer => ?_
  · obtain ⟨hb, rfl⟩ := hc _ _ hanswer
    cases hb
    exact hf
  · obtain ⟨he, -⟩ := hc _ _ hanswer
    cases he

/-- The texts of an event, apart from its id. -/
structure UnicodeEvent (request : AccessRequest) (sessionId : Option PyStr) (result : PyStr)
    (reasonCode actorUserId : Option PyStr) : Prop where
  actorUserId : encodable (actorUserId.getD request.userId) = true
  targetId : encodable request.targetId = true
  sessionId : ∀ s, sessionId = some s → encodable s = true
  result : encodable result = true
  reasonCode : ∀ s, reasonCode = some s → encodable s = true

theorem isUnicode_optional {s : Option PyStr} :
    IsUnicode (optionalField s).plain ↔ ∀ t, s = some t → encodable t = true := by
  rw [plain_optionalField]
  cases s <;> simp [optionalField, IsUnicode]

theorem unicodeTexts_iff {id : PyStr} (hid : encodable id = true) (timestamp : DateTime) :
    UnicodeTexts (eventObject ⟨id, timestamp, eventType, actorUserId.getD request.userId,
      request.targetId, sessionId, result, reasonCode⟩) ↔
      UnicodeEvent request sessionId result reasonCode actorUserId := by
  constructor
  · intro h
    exact ⟨h.actorUserId, h.targetId, isUnicode_optional.mp h.sessionId, h.result,
      isUnicode_optional.mp h.reasonCode⟩
  · intro h
    exact ⟨hid, h.actorUserId, h.targetId, isUnicode_optional.mpr h.sessionId, h.result,
      isUnicode_optional.mpr h.reasonCode⟩

/-- The calls of `appendEvent` up to the append itself. -/
theorem appendEvent_asks {Q : List PamEvent → PamOutcome Unit → Memory → AccessState → Prop}
    (h : ∀ id t r w', id ∉ w.used → encodable id = true → blank id = false → t.offset = some 0 →
      Answers rt key { w with used := id :: w.used } (.append ⟨id, t, eventType,
        actorUserId.getD request.userId, request.targetId, sessionId, result, reasonCode⟩) r w' →
      Q [⟨.newId, .ok id⟩, ⟨.now, .ok t⟩, ⟨.append ⟨id, t, eventType,
        actorUserId.getD request.userId, request.targetId, sessionId, result, reasonCode⟩, r⟩]
        (match r with
          | .ok () => .ret ()
          | .error e => .raise e) m w') :
    EnsuresServed (Answers rt key)
      (appendEvent request eventType sessionId result reasonCode actorUserId none) m w Q := by
  refine ensuresServed_call_bind (fun id w₁ hanswer => ?_) fun e w₁ hanswer => ?_
  · obtain ⟨_, hid, hblank, hencodes, hfresh, rfl⟩ := hanswer
    cases hid
    refine ensuresServed_call_bind (fun t w₂ hanswer => ?_) fun e w₂ hanswer => ?_
    · obtain ⟨⟨_, ht, hoffset⟩, rfl⟩ := hanswer
      cases ht
      have haware := (utc_of_offset hoffset).1
      simp only [AuditEvent.postInit, haware, if_true]
      refine ensuresServed_perform (S := pamSignature) (fun a w₃ hanswer => ?_)
        fun e w₃ hanswer => ?_
      · exact h id t (.ok a) w₃ hfresh hencodes hblank hoffset hanswer
      · exact h id t (.error e) w₃ hfresh hencodes hblank hoffset hanswer
    · obtain ⟨⟨_, ht, -⟩, -⟩ := hanswer
      cases ht
  · obtain ⟨_, hid, -⟩ := hanswer
    cases hid

/-- An event with Unicode texts is recorded while the numbers last. -/
theorem appendEvent_served (hkey : key.length = macSize) (h : Recording n w)
    (hroom : (n : ℤ) + 1 < 2 ^ 63)
    (hunicode : UnicodeEvent request sessionId result reasonCode actorUserId) :
    EnsuresServed (Answers rt key)
      (appendEvent request eventType sessionId result reasonCode actorUserId none) m w
      fun tr o m' w' => o = .ret () ∧ m' = m ∧ Recording (n + 1) w' ∧ ∀ ev ∈ tr, Wired rt ev := by
  refine appendEvent_asks fun id t r w' hfresh hencodes hblank hoffset hanswer => ?_
  obtain ⟨haware, u, hu⟩ := utc_of_offset hoffset
  obtain ⟨db, heffect, htrail⟩ := append_recorded ⟨id, t, eventType,
    actorUserId.getD request.userId, request.targetId, sessionId, result, reasonCode⟩ h hroom hkey
    haware hu ((unicodeTexts_iff hencodes t).mpr hunicode) hfresh
  rcases answers_append hanswer with ⟨db', heffect', rfl, rfl⟩ | ⟨e, heffect', -, -⟩
  · rw [heffect] at heffect'
    cases heffect'
    refine ⟨rfl, rfl, trail_mono htrail fun id hid => ?_, ?_⟩
    · rcases List.mem_cons.mp hid with rfl | hid
      · simp
      · simp [hid]
    · intro ev hev
      simp only [List.mem_cons, List.not_mem_nil, or_false] at hev
      rcases hev with rfl | rfl | rfl
      · exact ⟨id, rfl, hblank⟩
      · exact ⟨t, rfl, haware⟩
      · rfl
  · rw [heffect] at heffect'
    cases heffect'

/-- An event with any other text is refused, and nothing else is asked. -/
theorem appendEvent_refused (hkey : key.length = macSize) (h : Recording n w)
    (hunicode : ¬ UnicodeEvent request sessionId result reasonCode actorUserId) :
    EnsuresServed (Answers rt key)
      (appendEvent request eventType sessionId result reasonCode actorUserId none) m w
      fun tr o _ _ => o = .raise notChained ∧ ∀ ev ∈ tr, isRelease ev.1 = false := by
  refine appendEvent_asks fun id t r w' hfresh hencodes hblank hoffset hanswer => ?_
  obtain ⟨haware, u, hu⟩ := utc_of_offset hoffset
  have heffect := append_unencodable ⟨id, t, eventType, actorUserId.getD request.userId,
    request.targetId, sessionId, result, reasonCode⟩ h hkey haware hu
    (fun htexts => hunicode ((unicodeTexts_iff hencodes t).mp htexts))
  rcases answers_append hanswer with ⟨db', heffect', -, -⟩ | ⟨e, heffect', rfl, -⟩
  · have hnone := heffect.symm.trans heffect'
    cases hnone
  · have hsame := heffect.symm.trans heffect'
    cases hsame
    exact ⟨rfl, by simp [isRelease]⟩

end Appending

section Requests

variable {rt : Runtime} {key : Bytes} {w : AccessState} {n : ℕ} {s : Stores}
  {credentials : List (PyStr × Bytes)} {request : AccessRequest} (d : ℤ) (hd : 0 < d)
  (terminal : TerminalIO)

/-- A check is answered by the databases, and the audit file stays as it is. -/
theorem served_check {α : Type} {c : PamCall} {f : c.Answer → Pam α} {a : c.Answer} {m : Memory}
    {Q : List PamEvent → PamOutcome α → Memory → AccessState → Prop}
    (hkind : CallFootprints.kind c = .check) (hc : ∀ r, Wired rt ⟨c, r⟩ → r = .ok a)
    (hf : EnsuresServed (Answers rt key) (f a) m w
      fun tr o m' w' => Q (⟨c, .ok a⟩ :: tr) o m' w') :
    EnsuresServed (Answers rt key) (ask c >>= f) m w Q := by
  refine served_call_ok (fun r w' hanswer => ?_) hf
  cases c <;> first
    | exact ⟨hc r hanswer.1, hanswer.2⟩
    | cases hkind

theorem served_check_error {α : Type} {c : PamCall} {f : c.Answer → Pam α} {e : PyExn} {m : Memory}
    {Q : List PamEvent → PamOutcome α → Memory → AccessState → Prop}
    (hkind : CallFootprints.kind c = .check) (hc : ∀ r, Wired rt ⟨c, r⟩ → r = .error e)
    (hQ : Q [⟨c, .error e⟩] (.raise e) m w) :
    EnsuresServed (Answers rt key) (ask c >>= f) m w Q := by
  have hanswers : ∀ r w', Answers rt key w c r w' → r = .error e ∧ w' = w := by
    intro r w' hanswer
    cases c <;> first
      | exact ⟨hc r hanswer.1, hanswer.2⟩
      | cases hkind
  refine ensuresServed_call_bind (fun b w' hanswer => ?_) fun e' w' hanswer => ?_
  · obtain ⟨hb, -⟩ := hanswers _ _ hanswer
    cases hb
  · obtain ⟨he, rfl⟩ := hanswers _ _ hanswer
    cases he
    exact hQ

/-- The reason of a decision is a fixed text or the id of a policy. -/
theorem decisionOf_encodable {policies : List AccessPolicy}
    (h : ∀ p ∈ policies, encodable p.id = true) :
    encodable (decisionOf policies).reason = true := by
  unfold decisionOf
  split
  · rename_i denying hdenying
    exact h denying (List.mem_of_find?_eq_some hdenying)
  · split_ifs
    · exact encodable_py _
    · split
      · rename_i allowing hallowing
        exact h allowing (List.mem_of_find?_eq_some hallowing)
      · exact encodable_py _

theorem currentSession_served {α : Type} {f : Session → Pam α} {session : Session} {m : Memory}
    {Q : List PamEvent → PamOutcome α → Memory → AccessState → Prop}
    (hm : m.session = some session) (h : EnsuresServed (Answers rt key) (f session) m w Q) :
    EnsuresServed (Answers rt key) (currentSession >>= f) m w Q := by
  refine (Prog.ensures_bind' _ f m _).mpr ?_
  simp only [currentSession, Prog.ensures_bind', Prog.Then, Prog.ensures_memory, hm,
    Prog.ensures_pure, List.nil_append]
  exact h

/-- A denial is recorded. -/
theorem deny_served (hkey : key.length = macSize) (h : Recording n w) (hroom : (n : ℤ) + 1 < 2 ^ 63)
    {reason : PyStr} {actorUserId : Option PyStr}
    (hunicode : UnicodeEvent request none (py "denied") (some reason) actorUserId) (m : Memory) :
    EnsuresServed (Answers rt key) (deny request ⟨.deny, reason⟩ actorUserId) m w
      fun tr o _ _ => Ends tr o (.refused reason) := by
  have hwired : EnsuresServed (Answers rt key) (deny request ⟨.deny, reason⟩ actorUserId) m w
      fun tr _ _ _ => ∀ ev ∈ tr, Wired rt ev := by
    refine (appendEvent_served hkey h hroom hunicode).bind (fun tr a m' w' happend => ?_)
      fun tr e m' w' happend => happend.2.2.2
    refine ensuresServed_pure _ ?_
    rw [List.append_nil]
    exact happend.2.2.2
  have hends : (deny request ⟨.deny, reason⟩ actorUserId).EnsuresWhen (Wired rt) m
      fun tr o _ => Ends tr o (.refused reason) := deny_ends request reason actorUserId m
  refine (hwired.and (ensuresServed_of_ensures hends)).mono fun tr o m' w' hboth => ?_
  exact hboth.2 hboth.1

/-- The first two events of a session are recorded. -/
theorem appendOpening_served (hkey : key.length = macSize) (h : Recording n w)
    (hroom : (n : ℤ) + 2 < 2 ^ 63) {decision : AccessDecision} {session : Session} {m : Memory}
    (hm : m.session = some session) (hsession : encodable session.id = true)
    (huser : encodable request.userId = true) (htarget : encodable request.targetId = true)
    (hreason : encodable decision.reason = true) :
    EnsuresServed (Answers rt key) (appendOpening request decision) m w
      fun _ o _ _ => o = .ret () := by
  have hids : ∀ t, some session.id = some t → encodable t = true := by
    intro t ht
    cases ht
    exact hsession
  refine EnsuresServed.tryExcept (P := fun _ o _ _ => o = .ret ()) ?_ (fun tr a m' w' ho => ho) ?_
  · have hallowed : UnicodeEvent request (some session.id) (py "allowed") (some decision.reason)
        none := by
      refine ⟨huser, htarget, hids, encodable_py _, fun t ht => ?_⟩
      cases ht
      exact hreason
    have hopening : UnicodeEvent request (some session.id) (py "opening") none none :=
      ⟨huser, htarget, hids, encodable_py _, by simp⟩
    refine currentSession_served hm ?_
    refine (appendEvent_served hkey h (by omega) hallowed).bind (fun tr _ m' w' hfirst => ?_)
      fun tr e m' w' hfirst => hfirst.1
    have hnext : ((n + 1 : ℕ) : ℤ) + 1 < 2 ^ 63 := by
      push_cast
      omega
    exact (appendEvent_served hkey hfirst.2.2.1 hnext hopening).mono
      fun tr' o m'' w'' hsecond => hsecond.1
  · intro tr e m' w' ho
    cases ho

/-- The session of an admitted request is opened at the broker. -/
theorem startSession_served (hkey : key.length = macSize) (h : Recording n w)
    (hroom : (n : ℤ) + 2 < 2 ^ 63) (hrequest : request.postInit = .ok request)
    (huser : encodable request.userId = true) (htarget : encodable request.targetId = true)
    {decision : AccessDecision} (hreason : encodable decision.reason = true) {target : Target}
    (htargetId : blank target.id = false) {account : PrivilegedAccount}
    (haccountId : blank account.id = false) (credential : BrokerCredential) (m : Memory) :
    EnsuresServed (Answers rt key)
      ((portService d hd).startSession request decision target account credential terminal) m w
      fun tr _ _ _ => ∃ r, ⟨.openSession target account credential, r⟩ ∈ tr := by
  simp only [AccessRequest.postInit, except_bind_ok_iff, requireNonblank_ok_iff,
    exists_const] at hrequest
  obtain ⟨hid, huserId, -, -⟩ := hrequest
  refine ensuresServed_call_bind (fun id w₁ hanswer => ?_) fun e w₁ hanswer => ?_
  · obtain ⟨_, hok, hblank, hencodes, -, rfl⟩ := hanswer
    cases hok
    refine ensuresServed_call_bind (fun startedAt w₂ hanswer => ?_) fun e w₂ hanswer => ?_
    · obtain ⟨⟨_, hok, hoffset⟩, rfl⟩ := hanswer
      cases hok
      rw [postInit_new hblank hid huserId htargetId haccountId
        (utc_of_offset hoffset).1 rfl rfl rfl]
      refine ensuresServed_modify_bind _ ?_
      have hrecording : Recording n { w with used := id :: w.used } :=
        trail_mono h fun id hid => List.mem_cons_of_mem _ hid
      refine (appendOpening_served hkey hrecording hroom rfl hencodes huser htarget hreason).bind
        (fun tr _ m' w' _ => ?_) fun tr e m' w' ho => absurd ho (by simp)
      refine (ensuresServed_of_ensures (openBrokered_asks d hd target account credential _ m')).mono
        fun tr' o m'' w'' hopen => ?_
      obtain ⟨r, hr⟩ := hopen
      exact ⟨r, by simp [hr]⟩
    · obtain ⟨⟨_, hok, -⟩, -⟩ := hanswer
      cases hok
  · obtain ⟨_, hok, -⟩ := hanswer
    cases hok

theorem denyWithReason_served (hkey : key.length = macSize) (h : Recording n w)
    (hroom : (n : ℤ) + 2 < 2 ^ 63) (huser : encodable request.userId = true)
    (htarget : encodable request.targetId = true) {reason : PyStr}
    (hreason : encodable reason = true) (m : Memory) :
    EnsuresServed (Answers rt key) (denyWithReason request reason) m w
      fun tr o _ _ => Ends tr o (.refused reason) := by
  have hunicode : UnicodeEvent request none (py "denied") (some reason) none := by
    refine ⟨huser, htarget, by simp, encodable_py _, fun t ht => ?_⟩
    cases ht
    exact hreason
  exact deny_served hkey h (by omega) hunicode m

theorem checkAccount_served (hrt : Holds rt s credentials) (hkey : key.length = macSize)
    (h : Recording n w) (hroom : (n : ℤ) + 2 < 2 ^ 63) (hrequest : request.postInit = .ok request)
    (huser : encodable request.userId = true) (htargetId : encodable request.targetId = true)
    {decision : AccessDecision} (hreason : encodable decision.reason = true) {target : Target}
    (htarget : target ∈ s.targets) (m : Memory) :
    EnsuresServed (Answers rt key)
      ((portService d hd).checkAccount request decision target terminal) m w
      fun tr o _ _ => Ends tr o (accountFinding s credentials target) := by
  have hanswer := accountOf hrt htarget
  refine served_check (a := s.accounts.find? (·.targetId = target.id)) rfl
    (fun r hr => hr.trans hanswer) ?_
  unfold accountFinding
  cases hfound : s.accounts.find? (·.targetId = target.id) with
  | none =>
    exact (denyWithReason_served hkey h hroom huser htargetId (encodable_py _) m).mono
      fun tr o m' w' hends => hends.cons rfl rfl
  | some account =>
    have hmem := List.mem_of_find?_eq_some hfound
    have hsame : account.targetId = target.id := by simpa using List.find?_some hfound
    obtain ⟨hencodes, haccount⟩ := hrt.config.account_valid hmem
    have hresolve := hrt.vault account.credentialRef hencodes
    cases henabled : account.enabled with
    | false =>
      simp only [henabled, Bool.not_false, if_true]
      exact (denyWithReason_served hkey h hroom huser htargetId (encodable_py _) m).mono
        fun tr o m' w' hends => hends.cons rfl rfl
    | true =>
      simp only [henabled, Bool.not_true, Bool.false_eq_true, if_false, hsame, ne_eq,
        not_true_eq_false]
      cases hstored : plaintextOf credentials account.credentialRef.id with
      | none =>
        rw [hstored] at hresolve
        refine served_check_error (e := vaultError "credential does not exist") rfl
          (fun r hr => hr.trans (by rw [hresolve]; rfl)) ?_
        exact ⟨rfl, rfl, by simp⟩
      | some plaintext =>
        rw [hstored] at hresolve
        refine served_check (a := some ⟨plaintext⟩) rfl
          (fun r hr => hr.trans (by rw [hresolve]; rfl)) ?_
        refine (startSession_served d hd terminal hkey h hroom hrequest huser htargetId hreason
          (hrt.config.target_valid htarget).2 haccount _ m).mono fun tr o m' w' hopen => ?_
        obtain ⟨r, hr⟩ := hopen
        exact ⟨r, by simp [hr]⟩

theorem checkTarget_served (hrt : Holds rt s credentials) (hkey : key.length = macSize)
    (h : Recording n w) (hroom : (n : ℤ) + 2 < 2 ^ 63) (hrequest : request.postInit = .ok request)
    (huser : encodable request.userId = true) (htarget : encodable request.targetId = true)
    {decision : AccessDecision} (hreason : encodable decision.reason = true) (m : Memory) :
    EnsuresServed (Answers rt key) ((portService d hd).checkTarget request decision terminal) m w
      fun tr o _ _ => Ends tr o (targetFinding s credentials request) := by
  have hanswer := getTarget_represented hrt.config hrt.targets htarget
  refine served_check (a := s.targets.find? (·.id = request.targetId)) rfl
    (fun r hr => hr.trans hanswer) ?_
  unfold targetFinding
  cases hfound : s.targets.find? (·.id = request.targetId) with
  | none =>
    exact (denyWithReason_served hkey h hroom huser htarget (encodable_py _) m).mono
      fun tr o m' w' hends => hends.cons rfl rfl
  | some target =>
    cases henabled : target.enabled with
    | false =>
      simp only [henabled, Bool.not_false, if_true]
      exact (denyWithReason_served hkey h hroom huser htarget (encodable_py _) m).mono
        fun tr o m' w' hends => hends.cons rfl rfl
    | true =>
      simp only [henabled, Bool.not_true, Bool.false_eq_true, if_false]
      exact (checkAccount_served d hd terminal hrt hkey h hroom hrequest huser htarget hreason
        (List.mem_of_find?_eq_some hfound) m).mono fun tr o m' w' hends => hends.cons rfl rfl

/-- A request whose ids have a UTF-8 encoding ends as its finding says. -/
theorem handle_served (hrt : Holds rt s credentials) (hkey : key.length = macSize)
    (h : Recording n w) (hroom : (n : ℤ) + 2 < 2 ^ 63) (principal : AuthenticatedPrincipal)
    (hrequest : request.postInit = .ok request) (hprincipal : encodable principal.userId = true)
    (htarget : encodable request.targetId = true) (m : Memory) :
    EnsuresServed (Answers rt key) ((portService d hd).handle principal request terminal) m w
      fun tr o _ _ => Ends tr o (finding s credentials request principal) := by
  unfold AccessService.handle finding
  by_cases hsame : principal.userId = request.userId
  · have huser : encodable request.userId = true := hsame ▸ hprincipal
    have hanswer : ConfigurationDatabase.findMatching true rt.config request.userId request.targetId
        request.action = .ok (orderBy idColumn (matching s.policies request)) := by
      rw [ConfigurationDatabase.findMatching, hrt.policies]
      exact findMatching_reached hrt.config.policies huser htarget request.action
    have hreason : encodable (policyDecision s request).reason = true := by
      refine decisionOf_encodable fun p hp => ?_
      have hmem : p ∈ s.policies := List.mem_of_mem_filter (mem_orderBy.mp hp)
      exact (hrt.config.policies.storable p hmem).id_encodable
    simp only [hsame, ne_eq, not_true_eq_false, if_false, PolicyEvaluation.evaluate, bind_assoc,
      pure_bind]
    refine served_check (c := .findMatching _ _ _) rfl (fun r hr => hr.trans hanswer) ?_
    change EnsuresServed _ (if (policyDecision s request).effect ≠ .allow then _ else _) m w _
    unfold requestFinding
    by_cases hallow : (policyDecision s request).effect = .allow
    · simp only [hallow, ne_eq, not_true_eq_false, if_false]
      exact (checkTarget_served d hd terminal hrt hkey h hroom hrequest huser htarget
        hreason m).mono
        fun tr o m' w' hends => hends.cons rfl rfl
    · simp only [hallow, ne_eq, not_false_eq_true, if_true]
      have hdenied : EnsuresServed (Answers rt key) (deny request (policyDecision s request) none)
          m w fun tr o _ _ => Ends tr o (.refused (policyDecision s request).reason) := by
        rw [policyDecision_deny hallow]
        exact denyWithReason_served hkey h hroom huser htarget hreason m
      exact hdenied.mono fun tr o m' w' hends => hends.cons rfl rfl
  · simp only [hsame, ne_eq, not_false_eq_true, if_true]
    have hunicode : UnicodeEvent request none (py "denied")
        (some (py "authenticated_identity_mismatch")) (some principal.userId) := by
      refine ⟨hprincipal, htarget, by simp, encodable_py _, fun t ht => ?_⟩
      cases ht
      exact encodable_py _
    exact deny_served hkey h (by omega) hunicode m

/-- A request with an id that has no UTF-8 encoding is not answered: a text cannot be bound
or an event cannot be chained. -/
theorem handle_unencodable_served (hrt : Holds rt s credentials) (hkey : key.length = macSize)
    (h : Recording n w) (principal : AuthenticatedPrincipal)
    (hencodes : encodable principal.userId = false ∨ encodable request.targetId = false)
    (m : Memory) :
    EnsuresServed (Answers rt key) ((portService d hd).handle principal request terminal) m w
      fun tr o _ _ => (∃ e, o = .raise e) ∧ ∀ ev ∈ tr, isRelease ev.1 = false := by
  unfold AccessService.handle
  by_cases hsame : principal.userId = request.userId
  · rw [hsame] at hencodes
    have hanswer := findMatching_unencodable hrt.policies hencodes request.action
    simp only [hsame, ne_eq, not_true_eq_false, if_false, PolicyEvaluation.evaluate, bind_assoc]
    refine served_check_error (c := .findMatching _ _ _) rfl (fun r hr => hr.trans hanswer) ?_
    exact ⟨⟨_, rfl⟩, by simp [isRelease]⟩
  · simp only [hsame, ne_eq, not_false_eq_true, if_true]
    have hnot : ¬ UnicodeEvent request none (py "denied")
        (some (py "authenticated_identity_mismatch")) (some principal.userId) := by
      intro hunicode
      rcases hencodes with hnone | hnone
      · have hactor := hunicode.actorUserId
        rw [Option.getD_some, hnone] at hactor
        cases hactor
      · have htarget := hunicode.targetId
        rw [hnone] at htarget
        cases htarget
    refine (appendEvent_refused hkey h hnot).bind (fun tr a m' w' hrefused => ?_)
      fun tr e m' w' hrefused => ⟨⟨e, rfl⟩, hrefused.2⟩
    cases hrefused.1

end Requests

end PamMvp.ServedAccess
