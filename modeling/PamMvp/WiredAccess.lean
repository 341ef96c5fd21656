import PamMvp.AccessAuditTrail
import PamMvp.CallFootprints
import PamMvp.ConfigurationDatabase
import PamMvp.CredentialVault

/-!
# The access service over the production adapters

`build_application` hands the access service the repositories of `config.db` and the
vault of `vault.db`. What the checks of a request find is read off the stored objects;
from it follows how `handle` ends, and what it asks the vault and the broker.
-/
namespace PamMvp.WiredAccess
open InteractionPrograms PythonText DateTimes DomainModel SqliteValues SqliteParameters
  SessionLifecycle PamCalls
  PolicyEvaluation PolicyStore ConfigurationDatabase CredentialVault AccessHandling AccessAuditTrail

/-- The databases that the adapters read. -/
structure Runtime where
  config : ConfigDb
  gcm : AesGcm
  vaultRows : List VaultRow

/-- An answer that a production adapter gives when nothing is broken. A new id is not
blank and the clock is aware. -/
def Wired (rt : Runtime) : PamEvent → Prop
  | ⟨.findMatching userId targetId action, r⟩ =>
    r = ConfigurationDatabase.findMatching true rt.config userId targetId action
  | ⟨.getTarget targetId, r⟩ => r = ConfigurationDatabase.getTarget true rt.config targetId
  | ⟨.findForTarget targetId, r⟩ => r = ConfigurationDatabase.findForTarget true rt.config targetId
  | ⟨.resolve ref, r⟩ => r = (CredentialVault.resolve rt.gcm true rt.vaultRows ref).map some
  | ⟨.newId, r⟩ => ∃ id, r = .ok id ∧ blank id = false
  | ⟨.now, r⟩ => ∃ t, r = .ok t ∧ t.aware = true
  | ⟨.append _, r⟩ => r = .ok ()
  | _ => True

/-- `Wired`, computed. -/
def wired (rt : Runtime) : PamEvent → Bool
  | ⟨.findMatching userId targetId action, r⟩ =>
    r = ConfigurationDatabase.findMatching true rt.config userId targetId action
  | ⟨.getTarget targetId, r⟩ => r = ConfigurationDatabase.getTarget true rt.config targetId
  | ⟨.findForTarget targetId, r⟩ => r = ConfigurationDatabase.findForTarget true rt.config targetId
  | ⟨.resolve ref, r⟩ => r = (CredentialVault.resolve rt.gcm true rt.vaultRows ref).map some
  | ⟨.newId, .ok id⟩ => !blank id
  | ⟨.newId, .error _⟩ => false
  | ⟨.now, .ok t⟩ => t.aware
  | ⟨.now, .error _⟩ => false
  | ⟨.append _, r⟩ => r = .ok ()
  | _ => true

theorem wired_iff (rt : Runtime) (ev : PamEvent) : wired rt ev = true ↔ Wired rt ev := by
  obtain ⟨c, r⟩ := ev
  cases c with
  | newId => cases r <;> simp [wired, Wired]
  | now => cases r <;> simp [wired, Wired]
  | _ => simp [wired, Wired]

instance (rt : Runtime) : DecidablePred (Wired rt) := fun ev => decidable_of_iff _ (wired_iff rt ev)

/-- The databases hold these objects and these plaintexts, at most one account for
each target, and all three repositories were opened. -/
structure Holds (rt : Runtime) (s : Stores) (credentials : List (PyStr × Bytes)) : Prop where
  config : Represents rt.config s
  targets : rt.config.targets.isSome = true
  accounts : rt.config.accounts.isSome = true
  policies : rt.config.policies.isSome = true
  single : ∀ t, (s.accounts.filter (·.targetId = t)).length ≤ 1
  vault : ∀ ref : CredentialRef, encodable ref.id = true →
    CredentialVault.resolve rt.gcm true rt.vaultRows ref =
      match plaintextOf credentials ref.id with
      | none => .error (vaultError "credential does not exist")
      | some plaintext => .ok ⟨plaintext⟩

/-- What the checks of a request find. -/
inductive Finding where
  | refused (reason : PyStr)
  | credentialMissing
  | admitted (target : Target) (account : PrivilegedAccount) (credential : BrokerCredential)

section Findings

variable (s : Stores) (credentials : List (PyStr × Bytes)) (request : AccessRequest)

/-- The decision of the stored policies. -/
def policyDecision : AccessDecision := decisionOf (orderBy idColumn (matching s.policies request))

def accountFinding (target : Target) : Finding :=
  match s.accounts.find? (·.targetId = target.id) with
  | none => .refused (py "account_not_found")
  | some account =>
    if !account.enabled then .refused (py "privileged_account_disabled")
    else match plaintextOf credentials account.credentialRef.id with
      | none => .credentialMissing
      | some plaintext => .admitted target account ⟨plaintext⟩

def targetFinding : Finding :=
  match s.targets.find? (·.id = request.targetId) with
  | none => .refused (py "target_not_found")
  | some target =>
    if !target.enabled then .refused (py "target_disabled")
    else accountFinding s credentials target

def requestFinding : Finding :=
  if (policyDecision s request).effect ≠ .allow then .refused (policyDecision s request).reason
  else targetFinding s credentials request

def finding (principal : AuthenticatedPrincipal) : Finding :=
  if principal.userId ≠ request.userId then .refused (py "authenticated_identity_mismatch")
  else requestFinding s credentials request

end Findings

/-- The vault or the broker is asked. -/
def isRelease : PamCall → Bool
  | .resolve _ | .openSession _ _ _ => true
  | _ => false

/-- The one event of a refusal. -/
def Denial (reason : PyStr) (tr : List PamEvent) : Prop :=
  ∃ ev, persisted tr = [ev] ∧ ev.eventType = .accessDenied ∧ ev.reasonCode = some reason

/-- How a request with this finding ends. -/
def Ends (tr : List PamEvent) (o : PamOutcome AccessResult) : Finding → Prop
  | .refused reason => o = .ret ⟨⟨.deny, reason⟩, none⟩ ∧ Denial reason tr ∧
    ∀ ev ∈ tr, isRelease ev.1 = false
  | .credentialMissing => o = .raise (vaultError "credential does not exist") ∧ persisted tr = [] ∧
    ∀ target account credential r, ⟨.openSession target account credential, r⟩ ∉ tr
  | .admitted target account credential => ∃ r, ⟨.openSession target account credential, r⟩ ∈ tr

section Answers

variable {α : Type} {rt : Runtime} {c : PamCall} {f : c.Answer → Pam α} {m : Memory}
  {Q : List PamEvent → PamOutcome α → Memory → Prop}

theorem asked {P : c.Answer → Prop} (hc : ∀ r, Wired rt ⟨c, r⟩ → ∃ a, r = .ok a ∧ P a)
    (hf : ∀ a, P a → (f a).EnsuresWhen (Wired rt) m fun tr o m' => Q (⟨c, .ok a⟩ :: tr) o m') :
    (ask c >>= f).EnsuresWhen (Wired rt) m Q := by
  have hask : (ask c).EnsuresWhen (Wired rt) m fun tr o m' =>
      m' = m ∧ ∃ a, P a ∧ tr = [⟨c, .ok a⟩] ∧ o = .ret a := by
    refine Prog.ensuresWhen_perform (S := pamSignature) (fun a ha => ?_) fun e he => ?_
    · obtain ⟨b, hb, hP⟩ := hc _ ha
      cases hb
      exact ⟨rfl, a, hP, rfl, rfl⟩
    · obtain ⟨b, hb, -⟩ := hc _ he
      cases hb
  refine hask.bind ?_ ?_
  · intro tr a m' h
    obtain ⟨rfl, b, hP, rfl, ho⟩ := h
    cases ho
    exact hf a hP
  · intro tr e m' h
    obtain ⟨-, b, -, -, ho⟩ := h
    cases ho

theorem asked_ok {a : c.Answer} (hc : ∀ r, Wired rt ⟨c, r⟩ → r = .ok a)
    (hf : (f a).EnsuresWhen (Wired rt) m fun tr o m' => Q (⟨c, .ok a⟩ :: tr) o m') :
    (ask c >>= f).EnsuresWhen (Wired rt) m Q := by
  refine asked (P := (· = a)) (fun r hr => ⟨a, hc r hr, rfl⟩) fun b hb => ?_
  rw [hb]
  exact hf

theorem asked_error {e : PyExn} (hc : ∀ r, Wired rt ⟨c, r⟩ → r = .error e)
    (hQ : Q [⟨c, .error e⟩] (.raise e) m) : (ask c >>= f).EnsuresWhen (Wired rt) m Q := by
  have hask : (ask c).EnsuresWhen (Wired rt) m fun tr o m' =>
      m' = m ∧ tr = [⟨c, .error e⟩] ∧ o = .raise e := by
    refine Prog.ensuresWhen_perform (S := pamSignature) (fun a ha => ?_) fun e' he => ?_
    · cases hc _ ha
    · cases hc _ he
      exact ⟨rfl, rfl, rfl⟩
  refine hask.bind ?_ ?_
  · intro tr a m' h
    cases h.2.2
  · intro tr e' m' h
    obtain ⟨rfl, rfl, ho⟩ := h
    cases ho
    exact hQ

theorem wired_not_faultyOne {ev : PamEvent} (h : Wired rt ev) : faultyOne ev = false := by
  obtain ⟨c, r⟩ := ev
  cases c with
  | append event =>
    cases (h : r = .ok ())
    rfl
  | newId =>
    obtain ⟨id, rfl, -⟩ := h
    rfl
  | now =>
    obtain ⟨t, rfl, ht⟩ := h
    simp [faultyOne, ht]
  | _ => rfl

/-- Nothing fails in a run that the adapters answer. -/
theorem wired_not_faulty {tr : List PamEvent} (h : ∀ ev ∈ tr, Wired rt ev) : faulty tr = false :=
  List.any_eq_false.mpr fun ev hev => by simp [wired_not_faultyOne (h ev hev)]

end Answers

section Refusals

variable {rt : Runtime} {tr : List PamEvent} {o : PamOutcome AccessResult}

/-- A check before the end changes nothing about it. -/
theorem Ends.cons {ev : PamEvent} {f : Finding} (h : Ends tr o f) (hp : persistedOne ev = none)
    (hrelease : isRelease ev.1 = false) : Ends (ev :: tr) o f := by
  have hpersisted : persisted (ev :: tr) = persisted tr := by simp [hp]
  cases f with
  | refused reason =>
    obtain ⟨ho, hdenial, hquiet⟩ := h
    refine ⟨ho, ?_, ?_⟩
    · rw [Denial, hpersisted]
      exact hdenial
    · intro e he
      rcases List.mem_cons.mp he with rfl | he
      · exact hrelease
      · exact hquiet e he
  | credentialMissing =>
    obtain ⟨ho, hnone, hquiet⟩ := h
    refine ⟨ho, by rw [hpersisted, hnone], fun target account credential r hr => ?_⟩
    rcases List.mem_cons.mp hr with rfl | hr
    · cases hrelease
    · exact hquiet target account credential r hr
  | admitted target account credential =>
    obtain ⟨r, hr⟩ := h
    exact ⟨r, List.mem_cons_of_mem ev hr⟩

theorem audit_not_release {c : PamCall}
    (h : CallFootprints.kind c ∈ [CallFootprints.CallKind.audit]) :
    isRelease c = false := by
  cases c <;> simp [CallFootprints.kind] at h <;> rfl

theorem deny_ends (request : AccessRequest) (reason : PyStr) (actorUserId : Option PyStr)
    (m : Memory) : (deny request ⟨.deny, reason⟩ actorUserId).EnsuresWhen (Wired rt) m
      fun tr o _ => Ends tr o (.refused reason) := by
  have hevent := appendEvent_ensures request .accessDenied none (py "denied") (some reason)
    actorUserId none m (by simp)
  have hcalls := Prog.OnlyCalls.ensures
    (CallFootprints.appendEvent_within request .accessDenied none
    (py "denied") (some reason) actorUserId none) m
  have happend : (appendEvent request .accessDenied none (py "denied") (some reason) actorUserId
      none).EnsuresWhen (Wired rt) m fun tr o _ =>
        o = .ret () ∧ Denial reason tr ∧ ∀ ev ∈ tr, isRelease ev.1 = false := by
    refine (hevent.and hcalls).mono fun tr o m' h hwired => ?_
    obtain ⟨⟨-, -, ⟨ev, ho, hp, htype, -, hreason, -⟩ | ⟨e, -, -, hfaulty⟩⟩, honly⟩ := h
    · exact ⟨ho, ⟨ev, hp, htype, hreason⟩, fun ev hev => audit_not_release (honly ev hev)⟩
    · rw [wired_not_faulty hwired] at hfaulty
      cases hfaulty
  refine happend.bind ?_ ?_
  · intro tr _ m' h
    rw [Prog.ensuresWhen_pure, List.append_nil]
    exact ⟨rfl, h.2⟩
  · intro tr e m' h
    cases h.1

end Refusals

section Admission

variable {rt : Runtime} {s : Stores} {credentials : List (PyStr × Bytes)} {request : AccessRequest}
  (d : ℤ) (hd : 0 < d) (terminal : TerminalIO)

theorem postInit_new {session : Session} (hid : blank session.id = false)
    (hrequest : blank session.requestId = false) (huser : blank session.userId = false)
    (htarget : blank session.targetId = false) (haccount : blank session.accountId = false)
    (haware : session.startedAt.aware = true) (hstatus : session.status = .opening)
    (hended : session.endedAt = none) (hreason : session.closeReason = none) :
    session.postInit = .ok session := by
  simp [Session.postInit, Session.requireIds, requireNonblank, hid, hrequest, huser, htarget,
    haccount, requireAware, haware, Session.requireEnd, hended, Session.requireStatusFields,
    hstatus,
    hreason, bind, Except.bind, pure, Except.pure]

/-- Opening the broker session is the first thing that `openBrokered` does. -/
theorem openBrokered_asks {α : Type} (target : Target) (account : PrivilegedAccount)
    (credential : BrokerCredential) (f : Option Unit → Pam α) (m : Memory) :
    ((portService d hd).openBrokered request target account credential >>= f).Ensures m
      fun tr _ _ => ∃ r, ⟨.openSession target account credential, r⟩ ∈ tr := by
  change (Prog.call (S := pamSignature) (.openSession target account credential) _).Ensures m _
  rw [Prog.ensures_call]
  exact fun r tr o m' _ => ⟨r, List.mem_cons_self ..⟩

theorem appendOpening_wired {m : Memory} {session : Session} (hm : m.session = some session)
    (haware : session.startedAt.aware = true) (decision : AccessDecision) :
    (appendOpening request decision).EnsuresWhen (Wired rt) m fun _ o _ => o = .ret () := by
  refine (appendOpening_ensures hm haware request decision).mono fun tr o m' h hwired => ?_
  obtain ⟨-, ⟨ho, -⟩ | ⟨e, part, -, -, -, -, hfaulty⟩⟩ := h
  · exact ho
  · rw [wired_not_faulty hwired] at hfaulty
    cases hfaulty

/-- A session of an admitted request is opened at the broker. -/
theorem startSession_opens (hrequest : request.postInit = .ok request) (decision : AccessDecision)
    {target : Target} (htarget : blank target.id = false) {account : PrivilegedAccount}
    (haccount : blank account.id = false) (credential : BrokerCredential) (m : Memory) :
    ((portService d hd).startSession request decision target account credential
      terminal).EnsuresWhen
      (Wired rt) m fun tr _ _ => ∃ r, ⟨.openSession target account credential, r⟩ ∈ tr := by
  simp only [AccessRequest.postInit, except_bind_ok_iff, requireNonblank_ok_iff, exists_const]
    at hrequest
  obtain ⟨hid, huser, -, -⟩ := hrequest
  refine asked (fun r hr => hr) fun id hnew => asked (fun r hr => hr) fun startedAt haware => ?_
  rw [postInit_new hnew hid huser htarget haccount haware rfl rfl rfl]
  refine (Prog.ensuresWhen_modify_bind _ _ _ _).mpr ?_
  refine (appendOpening_wired rfl haware decision).bind ?_ ?_
  · intro tr _ m' _
    refine ((openBrokered_asks d hd target account credential _ m').when).mono fun tr' o m'' h => ?_
    obtain ⟨r, hr⟩ := h
    exact ⟨r, by simp [hr]⟩
  · intro tr e m' ho
    cases ho

theorem accountOf (hrt : Holds rt s credentials) {target : Target} (htarget : target ∈ s.targets) :
    findForTarget true rt.config target.id = .ok (s.accounts.find? (·.targetId = target.id)) := by
  rw [findForTarget_represented hrt.config hrt.accounts (hrt.config.target_valid htarget).1]
  exact accountFor_single (hrt.single target.id)

theorem checkAccount_ends (hrt : Holds rt s credentials) (hrequest : request.postInit = .ok request)
    (decision : AccessDecision) {target : Target} (htarget : target ∈ s.targets) (m : Memory) :
    ((portService d hd).checkAccount request decision target terminal).EnsuresWhen (Wired rt) m
      fun tr o _ => Ends tr o (accountFinding s credentials target) := by
  have hanswer := accountOf hrt htarget
  refine asked_ok (a := s.accounts.find? (·.targetId = target.id)) (fun r hr => hr.trans hanswer) ?_
  unfold accountFinding
  cases hfound : s.accounts.find? (·.targetId = target.id) with
  | none => exact (deny_ends request _ none m).mono fun tr o m' h => h.cons rfl rfl
  | some account =>
    have hmem := List.mem_of_find?_eq_some hfound
    have hsame : account.targetId = target.id := by simpa using List.find?_some hfound
    obtain ⟨hencodes, haccount⟩ := hrt.config.account_valid hmem
    have hresolve := hrt.vault account.credentialRef hencodes
    cases henabled : account.enabled with
    | false =>
      simp only [henabled, Bool.not_false, if_true]
      exact (deny_ends request _ none m).mono fun tr o m' h => h.cons rfl rfl
    | true =>
      simp only [henabled, Bool.not_true, Bool.false_eq_true, if_false, hsame, ne_eq,
        not_true_eq_false]
      cases hstored : plaintextOf credentials account.credentialRef.id with
      | none =>
        rw [hstored] at hresolve
        refine asked_error (e := vaultError "credential does not exist") (fun r hr => ?_) ?_
        · exact hr.trans (by rw [hresolve]; rfl)
        · exact ⟨rfl, rfl, by simp⟩
      | some plaintext =>
        rw [hstored] at hresolve
        refine asked_ok (a := some ⟨plaintext⟩) (fun r hr => hr.trans (by rw [hresolve]; rfl)) ?_
        refine (startSession_opens d hd terminal hrequest decision
          (hrt.config.target_valid htarget).2 haccount _ m).mono fun tr o m' h => ?_
        obtain ⟨r, hr⟩ := h
        exact ⟨r, by simp [hr]⟩

theorem checkTarget_ends (hrt : Holds rt s credentials) (hrequest : request.postInit = .ok request)
    (hencodes : encodable request.targetId = true) (decision : AccessDecision) (m : Memory) :
    ((portService d hd).checkTarget request decision terminal).EnsuresWhen (Wired rt) m
      fun tr o _ => Ends tr o (targetFinding s credentials request) := by
  have hanswer := getTarget_represented hrt.config hrt.targets hencodes
  refine asked_ok (a := s.targets.find? (·.id = request.targetId)) (fun r hr => hr.trans hanswer) ?_
  unfold targetFinding
  cases hfound : s.targets.find? (·.id = request.targetId) with
  | none => exact (deny_ends request _ none m).mono fun tr o m' h => h.cons rfl rfl
  | some target =>
    cases henabled : target.enabled with
    | false =>
      simp only [henabled, Bool.not_false, if_true]
      exact (deny_ends request _ none m).mono fun tr o m' h => h.cons rfl rfl
    | true =>
      simp only [henabled, Bool.not_true, Bool.false_eq_true, if_false]
      exact (checkAccount_ends d hd terminal hrt hrequest decision
        (List.mem_of_find?_eq_some hfound) m).mono fun tr o m' h => h.cons rfl rfl

/-- The decision of the policies is to allow or to deny. -/
theorem policyDecision_deny (h : (policyDecision s request).effect ≠ .allow) :
    policyDecision s request = ⟨.deny, (policyDecision s request).reason⟩ := by
  have hdecides : Decides (orderBy idColumn (matching s.policies request))
      (policyDecision s request) :=
    decisionOf_decides (orderBy_pairwise _)
  have hdeny := hdecides.allow_or_deny.resolve_left h
  generalize policyDecision s request = decision at hdeny
  cases decision
  cases hdeny
  rfl

/-- A request ends as its finding says. -/
theorem handle_ends (hrt : Holds rt s credentials) (principal : AuthenticatedPrincipal)
    (hrequest : request.postInit = .ok request)
    (hencodes : principal.userId = request.userId →
      encodable request.userId = true ∧ encodable request.targetId = true) (m : Memory) :
    ((portService d hd).handle principal request terminal).EnsuresWhen (Wired rt) m
      fun tr o _ => Ends tr o (finding s credentials request principal) := by
  unfold AccessService.handle finding
  by_cases hsame : principal.userId = request.userId
  · obtain ⟨huser, htarget⟩ := hencodes hsame
    have hanswer : ConfigurationDatabase.findMatching true rt.config request.userId request.targetId
        request.action = .ok (orderBy idColumn (matching s.policies request)) := by
      rw [ConfigurationDatabase.findMatching, hrt.policies]
      exact findMatching_reached hrt.config.policies huser htarget request.action
    simp only [hsame, ne_eq, not_true_eq_false, if_false, PolicyEvaluation.evaluate, bind_assoc,
      pure_bind]
    refine asked_ok (c := .findMatching _ _ _) (fun r hr => hr.trans hanswer) ?_
    change (if (policyDecision s request).effect ≠ .allow then _ else _ :
      Pam AccessResult).EnsuresWhen
      _ m _
    unfold requestFinding
    by_cases hallow : (policyDecision s request).effect = .allow
    · simp only [hallow, ne_eq, not_true_eq_false, if_false]
      refine (checkTarget_ends d hd terminal hrt hrequest htarget _ m).mono fun tr o m' h => ?_
      exact h.cons rfl rfl
    · simp only [hallow, ne_eq, not_false_eq_true, if_true]
      have hdenied : (deny request (policyDecision s request) none).EnsuresWhen (Wired rt) m
          fun tr o _ => Ends tr o (.refused (policyDecision s request).reason) := by
        rw [policyDecision_deny hallow]
        exact deny_ends request _ none m
      refine hdenied.mono fun tr o m' h => ?_
      exact h.cons rfl rfl
  · simp only [hsame, ne_eq, not_false_eq_true, if_true]
    exact deny_ends request _ _ m

/-- Without a UTF-8 encoding of its ids a request ends before the first decision. -/
theorem handle_unencodable (hrt : Holds rt s credentials) {principal : AuthenticatedPrincipal}
    (hsame : principal.userId = request.userId)
    (h : encodable request.userId = false ∨ encodable request.targetId = false) (m : Memory) :
    ((portService d hd).handle principal request terminal).EnsuresWhen (Wired rt) m
      fun tr o _ => o = .raise (bindExn .unicodeEncode) ∧ persisted tr = [] ∧
        ∀ ev ∈ tr, isRelease ev.1 = false := by
  have hanswer := findMatching_unencodable hrt.policies h request.action
  unfold AccessService.handle
  simp only [hsame, ne_eq, not_true_eq_false, if_false, PolicyEvaluation.evaluate, bind_assoc]
  refine asked_error (c := .findMatching _ _ _) (fun r hr => hr.trans hanswer) ?_
  exact ⟨rfl, rfl, by simp [isRelease]⟩

end Admission

end PamMvp.WiredAccess
