import PamMvp.AccessAuditTrail
import PamMvp.CallFootprints

/-!
# When a target password may leave the process

Every `auth_password` call of a run happens after all checks of the request, in
their order, after the announcement of the session, and on a transport whose
server presented the pinned key.
-/
namespace PamMvp.CredentialRelease
open InteractionPrograms PythonText DomainModel SessionLifecycle PamCalls AccessHandling
open SshConnecting BrokeredSessions CallFootprints AccessAuditTrail

/-- The connector's part of the conditions, on the calls `pre` made before. -/
structure Authenticating (sha256 : Bytes → Bytes) (target : Target) (account : PrivilegedAccount)
    (credential : BrokerCredential) (transport : Handle) (username password : PyStr)
    (pre : List PamEvent) : Prop where
  username : username = account.username
  password : decodeUtf8 credential.value = some password
  pinned : ∃ timeout socket serverKey keyBlob,
    ⟨.createConnection target.host target.port timeout, .ok socket⟩ ∈ pre ∧
    ⟨.newTransport socket sshDisabledAlgorithms, .ok transport⟩ ∈ pre ∧
    ⟨.getRemoteServerKey transport, .ok serverKey⟩ ∈ pre ∧
    ⟨.asbytes serverKey, .ok keyBlob⟩ ∈ pre ∧
    (calculateSha256Fingerprint sha256 keyBlob).value = target.expectedHostKey.value

/-- What the checks of one request found. -/
structure Checks where
  policies : List AccessPolicy
  target : Target
  account : PrivilegedAccount
  credential : BrokerCredential
  sessionId : PyStr
  startedAt : DateTimes.DateTime

/-- The calls of a request up to its session record, answered by `c`. -/
def checkCalls (request : AccessRequest) (c : Checks) : List PamEvent :=
  [⟨.findMatching request.userId request.targetId request.action, .ok c.policies⟩,
    ⟨.getTarget request.targetId, .ok (some c.target)⟩,
    ⟨.findForTarget c.target.id, .ok (some c.account)⟩,
    ⟨.resolve c.account.credentialRef, .ok (some c.credential)⟩,
    ⟨.newId, .ok c.sessionId⟩,
    ⟨.now, .ok c.startedAt⟩]

/-- The checks of a request passed. -/
structure Passed (principal : AuthenticatedPrincipal) (request : AccessRequest) (c : Checks) :
    Prop where
  identity : principal.userId = request.userId
  someAllow : ∃ p ∈ c.policies, p.effect = .allow
  noDeny : ∀ p ∈ c.policies, p.effect ≠ .deny
  noApproval : ∀ p ∈ c.policies, p.effect ≠ .requiresApproval
  targetEnabled : c.target.enabled = true
  accountEnabled : c.account.enabled = true
  accountTarget : c.account.targetId = c.target.id

/-- All conditions on an `auth_password` call after the calls `pre`. -/
def Released (sha256 : Bytes → Bytes) (principal : AuthenticatedPrincipal)
    (request : AccessRequest) (pre : List PamEvent) : PamEvent → Prop
  | ⟨.authPassword transport username password, _⟩ => ∃ c,
    Passed principal request c ∧ checkCalls request c <+: pre ∧
    Lifecycle c.sessionId [.accessAllowed, .sessionOpening] (persisted pre) ∧
    Authenticating sha256 c.target c.account c.credential transport username password pre
  | _ => True

def isAuthPassword : PamCall → Bool
  | .authPassword _ _ _ => true
  | _ => false

/-- No credential leaves during the trace. -/
def Quiet (tr : List PamEvent) : Prop := ∀ ev ∈ tr, isAuthPassword ev.1 = false

theorem Quiet.guarded {P : List PamEvent → PamEvent → Prop} {tr : List PamEvent}
    (h : Quiet tr) (hP : ∀ pre ev, isAuthPassword ev.1 = false → P pre ev) : Guarded P tr :=
  Guarded.of_forall fun ev hev pre => hP pre ev (h ev hev)

theorem Within.quiet {α : Type} {kinds : List CallKind} {p : Pam α} (hp : Within kinds p)
    (hk : CallKind.connect ∉ kinds) (m : Memory) : p.Ensures m fun tr _ _ => Quiet tr := by
  refine (Prog.OnlyCalls.ensures hp m).mono fun tr _ _ h ev hev => ?_
  have hkind := h ev hev
  obtain ⟨c, r⟩ := ev
  cases c with
  | authPassword => exact absurd hkind hk
  | _ => rfl

section Connect

variable {sha256 : Bytes → Bytes} {target : Target} {account : PrivilegedAccount}
  {credential : BrokerCredential}

/-- `Authenticating` as a condition on every call of a trace. -/
def AuthenticatingCall (sha256 : Bytes → Bytes) (target : Target) (account : PrivilegedAccount)
    (credential : BrokerCredential) (pre : List PamEvent) : PamEvent → Prop
  | ⟨.authPassword transport username password, _⟩ =>
    Authenticating sha256 target account credential transport username password pre
  | _ => True

theorem authenticatingCall_of_other {pre : List PamEvent} {ev : PamEvent}
    (h : isAuthPassword ev.1 = false) :
    AuthenticatingCall sha256 target account credential pre ev := by
  obtain ⟨c, r⟩ := ev
  cases c <;> trivial

/-- A quiet first part that establishes `F`, and a second part that relies on it. -/
theorem ensures_quiet_bind {α β : Type} {p : Pam α} {f : α → Pam β} {m : Memory}
    {P : List PamEvent → PamEvent → Prop} {F : α → List PamEvent → Prop}
    (hP : ∀ pre ev, isAuthPassword ev.1 = false → P pre ev)
    (hp : p.Ensures m fun tr o _ => Quiet tr ∧ ∀ a, o = .ret a → F a tr)
    (hf : ∀ tr a m', F a tr →
      (f a).Ensures m' fun tr' _ _ => Guarded (fun pre ev => P (tr ++ pre) ev) tr') :
    (p >>= f).Ensures m fun tr _ _ => Guarded P tr := by
  refine hp.bind ?_ ?_
  · intro tr a m' h
    refine (hf tr a m' (h.2 a rfl)).mono fun tr' o m'' hg => ?_
    exact (guarded_append tr tr').mpr ⟨h.1.guarded hP, hg⟩
  · intro tr e m' h
    exact h.1.guarded hP

/-- A handler that cleans up quietly and raises. -/
theorem ensures_quiet_throw {α : Type} {p : Pam Unit} {m : Memory} (Q : α → List PamEvent → Prop)
    (hp : p.Ensures m fun tr _ _ => Quiet tr) (pre : List PamEvent) (hpre : Quiet pre) (e : PyExn) :
    (p >>= fun _ => (throw e : Pam α)).Ensures m fun tr o _ =>
      Quiet (pre ++ tr) ∧ ∀ a, o = .ret a → Q a (pre ++ tr) := by
  have happ (tr : List PamEvent) (h : Quiet tr) : Quiet (pre ++ tr) := by
    intro ev hev
    rcases List.mem_append.mp hev with hev | hev
    · exact hpre ev hev
    · exact h ev hev
  refine hp.bind ?_ ?_
  · intro tr _ m' h
    simpa using happ tr h
  · intro tr e' m' h
    exact ⟨happ tr h, by simp⟩

theorem createConnection_ensures (connector : ParamikoSshConnector) (target : Target) (m : Memory) :
    (connector.createConnection target).Ensures m fun tr o _ => Quiet tr ∧ ∀ socket,
      o = .ret socket → ⟨.createConnection target.host target.port connector.connectTimeout,
        .ok socket⟩ ∈ tr := by
  refine ensures_exceptWhere ((ensures_ask (.createConnection _ _ _) m (fun tr o _ => Quiet tr ∧
    ∀ socket, o = .ret socket → ⟨.createConnection target.host target.port
      connector.connectTimeout, .ok socket⟩ ∈ tr)).mpr ?_) ?_ ?_ ?_
  · simp [Quiet, isAuthPassword]
  · exact fun tr socket m' h => h
  · exact fun tr e m' h _ => h
  · intro tr e m' h _
    simpa using h.1

theorem negotiate_ensures (connector : ParamikoSshConnector) (target : Target) (socket : Handle)
    (m : Memory) : (connector.negotiate target socket).Ensures m fun tr o _ => Quiet tr ∧
      ∀ negotiated, o = .ret negotiated →
        ⟨.newTransport socket sshDisabledAlgorithms, .ok negotiated.1⟩ ∈ tr ∧
        ⟨.getRemoteServerKey negotiated.1, .ok negotiated.2⟩ ∈ tr := by
  refine ensures_exceptException (P := fun tr o _ => Quiet tr ∧ ∀ negotiated,
    o = .ret negotiated → ⟨.newTransport socket sshDisabledAlgorithms, .ok negotiated.1⟩ ∈ tr ∧
      ⟨.getRemoteServerKey negotiated.1, .ok negotiated.2⟩ ∈ tr) ?_ ?_ ?_ ?_
  · simp [Prog.Then, ensures_ask (.newTransport _ _), ensures_ask (.startClient _ _),
      ensures_ask (.getRemoteServerKey _), -bind_pure_comp, Quiet, isAuthPassword]
  · exact fun tr negotiated m' h => h
  · exact fun tr e m' h _ => h
  · intro tr e m' h _
    simp only [Prog.ensures_bind' Prog.memory, Prog.ensures_memory, Prog.Then, List.nil_append]
    exact ensures_quiet_throw (fun (negotiated : Handle × Handle) tr =>
      ⟨.newTransport socket sshDisabledAlgorithms, .ok negotiated.1⟩ ∈ tr ∧
        ⟨.getRemoteServerKey negotiated.1, .ok negotiated.2⟩ ∈ tr)
      (Within.quiet (closeResources_within _ _) (by simp) m') tr h.1 _

theorem closingOnError_ensures {transport socket : Handle} {cls : ExnClass} {error : PyExn}
    {p : Pam Unit} {m : Memory} {F : List PamEvent → Prop}
    (hp : p.Ensures m fun tr o _ => Quiet tr ∧ ∀ a, o = .ret a → F tr) :
    (ParamikoSshConnector.closingOnError transport socket cls error p).Ensures m fun tr o _ =>
      Quiet tr ∧ ∀ a, o = .ret a → F tr := by
  refine ensures_exceptException hp (fun _ _ _ h => h) (fun _ _ _ h _ => h) ?_
  intro tr e m' h _
  exact ensures_quiet_throw (fun _ tr => F tr)
    (Within.quiet (closeResources_within _ _) (by simp) m') tr h.1 _

theorem verifyPinnedHostKey_ensures (sha256 : Bytes → Bytes) (target : Target) (serverKey : Handle)
    (m : Memory) : (verifyPinnedHostKey sha256 target serverKey).Ensures m fun tr o _ =>
      Quiet tr ∧ ∀ a, o = .ret a → ∃ keyBlob, ⟨.asbytes serverKey, .ok keyBlob⟩ ∈ tr ∧
        (calculateSha256Fingerprint sha256 keyBlob).value = target.expectedHostKey.value := by
  simp only [verifyPinnedHostKey, Prog.ensures_bind', ensures_ask (.asbytes _), Prog.Then,
    ensures_lift]
  refine ⟨fun keyBlob => ⟨fun equal hequal => ?_, ?_⟩, ?_⟩
  · cases equal with
    | false => simp [Quiet, isAuthPassword]
    | true =>
      have heq : (calculateSha256Fingerprint sha256 keyBlob).value =
          target.expectedHostKey.value := by
        unfold compareDigest at hequal
        split at hequal
        · simpa using hequal
        · cases hequal
      simp [Quiet, isAuthPassword, heq]
  · simp [Quiet, isAuthPassword]
  · simp [Quiet, isAuthPassword]

/-- The one call that releases the password sends what the vault returned. -/
theorem authenticate_ensures {P : List PamEvent → PamEvent → Prop} (transport : Handle)
    (account : PrivilegedAccount) (credential : BrokerCredential) (m : Memory)
    (hP : ∀ pre ev, isAuthPassword ev.1 = false → P pre ev)
    (hrelease : ∀ password r, decodeUtf8 credential.value = some password →
      P [] ⟨.authPassword transport account.username password, r⟩) :
    (ParamikoSshConnector.authenticate transport account credential).Ensures m fun tr _ _ =>
      Guarded P tr := by
  unfold ParamikoSshConnector.authenticate
  cases hdecode : decodeUtf8 credential.value with
  | none => simp
  | some password =>
    refine Prog.Ensures.bind (P := fun tr _ _ => Guarded P tr) ?_ ?_ ?_
    · refine ensures_exceptWhere (P := fun tr _ _ => Guarded P tr) ?_ ?_ ?_ ?_
      · rw [ensures_ask (.authPassword _ _ _)]
        simp [hrelease password _ hdecode]
      · exact fun tr _ m' h => h
      · exact fun tr e m' h _ => h
      · intro tr e m' h _
        simpa using h
    · intro tr _ m' h
      have hquiet : Prog.OnlyCalls (S := pamSignature) (fun c => isAuthPassword c = false) (do
          if ← ask (.isAuthenticated transport) then return ()
          else throw (raised .sshAuthenticationError (py "SSH authentication failed"))) := by
        refine Prog.OnlyCalls.bind (Prog.OnlyCalls.perform rfl) fun authenticated => ?_
        cases authenticated <;> trivial
      refine (hquiet.ensures m').mono fun tr' o m'' h' => (guarded_append tr tr').mpr ⟨h, ?_⟩
      exact Quiet.guarded h' fun pre ev hev => hP _ ev hev
    · exact fun tr e m' h => h

theorem closingOnError_guarded {transport socket : Handle} {cls : ExnClass} {error : PyExn}
    {p : Pam Unit} {m : Memory} {P : List PamEvent → PamEvent → Prop}
    (hP : ∀ pre ev, isAuthPassword ev.1 = false → P pre ev)
    (hp : p.Ensures m fun tr _ _ => Guarded P tr) :
    (ParamikoSshConnector.closingOnError transport socket cls error p).Ensures m fun tr _ _ =>
      Guarded P tr := by
  refine ensures_exceptException hp (fun _ _ _ h => h) (fun _ _ _ h _ => h) ?_
  intro tr e m' h _
  refine (ensures_quiet_throw (fun (_ : Unit) _ => True)
    (Within.quiet (closeResources_within _ _) (by simp) m') [] (by simp [Quiet]) _).mono ?_
  intro tr' o m'' h'
  exact (guarded_append tr tr').mpr ⟨h, h'.1.guarded fun pre ev hev => hP _ ev hev⟩

theorem connect_ensures (connector : ParamikoSshConnector) (target : Target)
    (account : PrivilegedAccount) (credential : BrokerCredential) (m : Memory) :
    (connector.connect target account credential).Ensures m fun tr _ _ =>
      Guarded (AuthenticatingCall connector.sha256 target account credential) tr := by
  have hother : ∀ pre ev, isAuthPassword ev.1 = false →
      AuthenticatingCall connector.sha256 target account credential pre ev :=
    fun pre ev h => authenticatingCall_of_other h
  simp only [ParamikoSshConnector.connect, Prog.ensures_bind' (Prog.modify _),
    Prog.ensures_modify, Prog.Then, List.nil_append]
  refine ensures_quiet_bind hother (createConnection_ensures connector target _) ?_
  intro tr₁ socket m₁ hsocket
  refine ensures_quiet_bind (fun pre ev h => hother _ ev h)
    (negotiate_ensures connector target socket m₁) ?_
  intro tr₂ negotiated m₂ hnegotiated
  obtain ⟨transport, serverKey⟩ := negotiated
  refine ensures_quiet_bind (fun pre ev h => hother _ ev h)
    (closingOnError_ensures (verifyPinnedHostKey_ensures connector.sha256 target serverKey m₂)) ?_
  intro tr₃ _ m₃ hpinned
  obtain ⟨keyBlob, hblob, heq⟩ := hpinned
  have hrest : ∀ pre ev, isAuthPassword ev.1 = false → AuthenticatingCall connector.sha256 target
      account credential (tr₁ ++ (tr₂ ++ (tr₃ ++ pre))) ev := fun pre ev h => hother _ ev h
  refine Prog.Ensures.bind (closingOnError_guarded hrest
    (authenticate_ensures transport account credential m₃ hrest ?_)) ?_ ?_
  · intro password r hdecode
    refine ⟨rfl, hdecode, connector.connectTimeout, socket, serverKey, keyBlob, ?_, ?_, ?_, ?_, heq⟩
    · simp [hsocket]
    · simp [hnegotiated.1]
    · simp [hnegotiated.2]
    · simp [hblob]
  · intro tr₄ _ m₄ h
    simpa [VerifiedSshConnection.new, Prog.Then] using h
  · exact fun tr₄ e m₄ h => h

end Connect

section Handle

variable (connector : ParamikoSshConnector) (fuel : ℕ) (d : ℤ) (hd : 0 < d)

/-- The access service over SSH. -/
def sshService : AccessService := ⟨paramikoBroker connector fuel, d, hd⟩

theorem runBrokered_within (request : AccessRequest) (decision : AccessDecision)
    (brokered : ParamikoBrokeredSession) :
    Within [.audit, .channel, .terminal, .close]
      ((sshService connector fuel d hd).runBrokered request decision brokered portTerminal) := by
  refine (Within.modify _).bind fun _ => Prog.OnlyCalls.bind ?_ fun relayed => ?_
  · refine Prog.OnlyCalls.tryFinally ?_ ?_
    · refine ((transition_within _).mono (by simp)).bind fun _ => ?_
      refine ((appendActive_within request).mono (by simp)).bind fun _ => ?_
      refine Within.exceptException (Prog.OnlyCalls.bind ?_ fun outcome => ?_) fun _ =>
        Within.pure _
      · exact (relay_within fuel brokered d).mono (by simp)
      · cases outcome with
        | none => exact Within.throw _
        | some outcome => exact Within.pure _
    · refine Within.exceptException (Prog.OnlyCalls.bind ?_ fun _ => Within.modify _)
        fun _ => Within.pure _
      exact (closeBrokered_within brokered).mono (by simp)
  · refine ((endSession_within request relayed).mono (by simp)).bind fun _ => ?_
    exact (currentSession_within.mono (by simp)).bind fun _ => Within.pure _

/-- The part of `open_session` after the connection is verified. -/
theorem openBrokered_within (connection : VerifiedSshConnection) : Within [.channel, .close] (do
    let channel ← exceptException (InteractiveSshChannel.open connection) fun e => do
      suppressed connection.close
      throw e
    ParamikoBrokeredSession.new connection channel) := by
  refine Prog.OnlyCalls.bind ?_ fun channel => (Within.modify _).bind fun _ => Within.pure _
  refine (openChannel_within connection).exceptException fun e => ?_
  refine Prog.OnlyCalls.bind ?_ fun _ => Within.throw e
  exact (suppressed_within (closeConnection_within connection)).mono (by simp)

theorem openSession_within (target : Target) (account : PrivilegedAccount)
    (credential : BrokerCredential) :
    Within [.connect, .channel, .close] (openSession connector target account credential) :=
  ((connect_within connector target account credential).mono (by simp)).bind fun connection =>
    Within.mono (openBrokered_within connection) (by simp)

theorem openSession_ensures (target : Target) (account : PrivilegedAccount)
    (credential : BrokerCredential) (m : Memory) :
    (openSession connector target account credential).Ensures m fun tr _ _ =>
      Guarded (AuthenticatingCall connector.sha256 target account credential) tr := by
  have hother : ∀ pre ev, isAuthPassword ev.1 = false →
      AuthenticatingCall connector.sha256 target account credential pre ev :=
    fun pre ev h => authenticatingCall_of_other h
  refine (connect_ensures connector target account credential m).bind ?_ ?_
  · intro tr connection m' h
    refine (Within.quiet (openBrokered_within connection) (by simp) m').mono fun tr' o m'' h' => ?_
    exact (guarded_append tr tr').mpr ⟨h, h'.guarded fun pre ev hev => hother _ ev hev⟩
  · exact fun tr e m' h => h

theorem released_of_other {sha256 : Bytes → Bytes} {principal : AuthenticatedPrincipal}
    {request : AccessRequest} {pre : List PamEvent} {ev : PamEvent}
    (h : isAuthPassword ev.1 = false) : Released sha256 principal request pre ev := by
  obtain ⟨c, r⟩ := ev
  cases c <;> trivial

theorem Authenticating.after {sha256 : Bytes → Bytes} {target : Target}
    {account : PrivilegedAccount} {credential : BrokerCredential} {transport : Handle}
    {username password : PyStr} {pre : List PamEvent} (past : List PamEvent)
    (h : Authenticating sha256 target account credential transport username password pre) :
    Authenticating sha256 target account credential transport username password (past ++ pre) := by
  obtain ⟨timeout, socket, serverKey, keyBlob, h₁, h₂, h₃, h₄, heq⟩ := h.pinned
  exact ⟨h.username, h.password, timeout, socket, serverKey, keyBlob,
    List.mem_append_right _ h₁, List.mem_append_right _ h₂, List.mem_append_right _ h₃,
    List.mem_append_right _ h₄, heq⟩

theorem Within.no_append {α : Type} {kinds : List CallKind} {p : Pam α} (hp : Within kinds p)
    (hk : CallKind.audit ∉ kinds) (m : Memory) :
    p.Ensures m fun tr _ _ => ∀ ev ∈ tr, persistedOne ev = none := by
  refine (Prog.OnlyCalls.ensures hp m).mono fun tr _ _ h ev hev => ?_
  have hkind := h ev hev
  obtain ⟨c, r⟩ := ev
  cases c with
  | append => exact absurd hkind hk
  | _ => rfl

theorem released_of_authenticating {principal : AuthenticatedPrincipal} {request : AccessRequest}
    {c : Checks} (hc : Passed principal request c) {opening : List PamEvent}
    (hopening : Lifecycle c.sessionId [.accessAllowed, .sessionOpening] (persisted opening))
    {sha256 : Bytes → Bytes} {pre : List PamEvent} (hpre : ∀ ev ∈ pre, persistedOne ev = none)
    {ev : PamEvent} (h : AuthenticatingCall sha256 c.target c.account c.credential pre ev) :
    Released sha256 principal request (checkCalls request c ++ (opening ++ pre)) ev := by
  obtain ⟨call, r⟩ := ev
  cases call with
  | authPassword transport username password =>
    have hnone : persisted pre = [] := List.filterMap_eq_nil_iff.mpr hpre
    refine ⟨c, hc, List.prefix_append _ _, ?_, ?_⟩
    · have hchecks : persisted (checkCalls request c) = [] := rfl
      simpa [hchecks, hnone] using hopening
    · simpa using h.after (checkCalls request c ++ opening)
  | _ => trivial

/-- After passed checks every release is announced and pinned. -/
theorem runSession_ensures (principal : AuthenticatedPrincipal) (request : AccessRequest)
    (decision : AccessDecision) (c : Checks) (hc : Passed principal request c) {m : Memory}
    {s : Session} (hm : m.session = some s) (hid : s.id = c.sessionId)
    (hs : s.startedAt.aware = true) :
    ((sshService connector fuel d hd).runSession request decision c.target c.account c.credential
      portTerminal).Ensures m fun tr _ _ => Guarded (fun pre ev =>
        Released connector.sha256 principal request (checkCalls request c ++ pre) ev) tr := by
  have hother : ∀ past pre ev, isAuthPassword ev.1 = false →
      Released connector.sha256 principal request (checkCalls request c ++ (past ++ pre)) ev :=
    fun past pre ev h => released_of_other h
  have hopening : (appendOpening request decision).Ensures m fun tr o _ => Quiet tr ∧ ∀ a,
      o = .ret a → Lifecycle c.sessionId [.accessAllowed, .sessionOpening] (persisted tr) := by
    refine ((Within.quiet (appendOpening_within request decision) (by simp) m).and
      (AccessAuditTrail.appendOpening_ensures hm hs request decision)).mono ?_
    intro tr o m' h
    refine ⟨h.1, fun a ha => ?_⟩
    rcases h.2.2 with ⟨-, -, hl⟩ | ⟨e, part, he, -⟩
    · rw [← hid]
      exact hl
    · rw [he] at ha
      cases ha
  refine ensures_quiet_bind (fun pre ev h => released_of_other h) hopening ?_
  intro opening _ m₁ hl
  refine Prog.Ensures.bind (P := fun tr _ _ => Guarded (fun pre ev =>
    Released connector.sha256 principal request (checkCalls request c ++ (opening ++ pre)) ev) tr)
    ?_ ?_ ?_
  · refine ensures_exceptException (P := fun tr _ _ => Guarded (fun pre ev =>
      Released connector.sha256 principal request (checkCalls request c ++ (opening ++ pre)) ev) tr)
      ?_ (fun _ _ _ h => h) (fun _ _ _ h _ => h) ?_
    · have hopen : (openSession connector c.target c.account c.credential).Ensures m₁ fun tr _ _ =>
          Guarded (fun pre ev => Released connector.sha256 principal request
            (checkCalls request c ++ (opening ++ pre)) ev) tr := by
        refine ((openSession_ensures connector c.target c.account c.credential m₁).and
          (Within.no_append (openSession_within connector _ _ _) (by simp) m₁)).mono ?_
        intro tr o m₂ h
        refine (h.1.and (guarded_of_forall_mem h.2)).mono fun pre ev hev => ?_
        exact released_of_authenticating hc hl hev.2 hev.1
      refine hopen.bind (fun tr brokered m₂ h => ?_) (fun _ _ _ h => h)
      simpa using h
    · intro tr e m₂ h _
      have hfail : Within [.audit] (do
          failSession request (py "broker_open_failed")
          return (none : Option ParamikoBrokeredSession)) :=
        (terminate_within ..).bind fun _ => Within.pure _
      refine (Within.quiet hfail (by simp) m₂).mono fun tr' o m₃ h' => ?_
      exact (guarded_append tr tr').mpr ⟨h, h'.guarded fun pre ev hev => released_of_other hev⟩
  · intro tr brokered m₂ h
    have hrest {p : Pam AccessResult} (hp : Within [.audit, .channel, .terminal, .close] p) :
        p.Ensures m₂ fun tr' _ _ => Guarded (fun pre ev => Released connector.sha256 principal
          request (checkCalls request c ++ (opening ++ pre)) ev) (tr ++ tr') := by
      refine (Within.quiet hp (by simp) m₂).mono fun tr' o m₃ h' => ?_
      exact (guarded_append tr tr').mpr ⟨h, h'.guarded fun pre ev hev => released_of_other hev⟩
    cases brokered with
    | none => exact hrest ((currentSession_within.mono (by simp)).bind fun _ => Within.pure _)
    | some brokered =>
      exact hrest (runBrokered_within connector fuel d hd request decision brokered)
  · exact fun _ _ _ h => h

theorem startSession_ensures (principal : AuthenticatedPrincipal) (request : AccessRequest)
    (decision : AccessDecision) (c : Checks)
    (hc : ∀ sessionId startedAt, Passed principal request { c with sessionId, startedAt })
    (m : Memory) :
    ((sshService connector fuel d hd).startSession request decision c.target c.account c.credential
      portTerminal).Ensures m fun tr _ _ => Guarded (fun pre ev =>
        Released connector.sha256 principal request
          ((checkCalls request c).take 4 ++ pre) ev) tr := by
  have hother : ∀ pre ev, isAuthPassword ev.1 = false →
      Released connector.sha256 principal request pre ev := fun pre ev h => released_of_other h
  simp only [AccessService.startSession, Prog.ensures_bind' (ask .newId), ensures_ask .newId,
    Prog.Then, Prog.ensures_bind' (ask .now), ensures_ask .now, Prog.ensures_bind' (lift _),
    ensures_lift]
  refine ⟨fun id => ⟨fun startedAt => ⟨fun session hinit => ?_, ?_⟩, ?_⟩, ?_⟩
  · obtain ⟨rfl, haware, -⟩ := Session.postInit_opening hinit rfl
    simp only [Prog.ensures_bind' (Prog.modify _), Prog.ensures_modify, Prog.Then]
    have hrun := runSession_ensures connector fuel d hd principal request decision
      { c with sessionId := id, startedAt := startedAt } (hc id startedAt)
      (m := { m with session := some _ }) rfl rfl haware
    refine hrun.mono fun tr o m' h => ?_
    have hfirst : Quiet [⟨.newId, .ok id⟩, ⟨.now, .ok startedAt⟩] := by simp [Quiet, isAuthPassword]
    show Guarded (fun pre ev => Released connector.sha256 principal request
      ((checkCalls request c).take 4 ++ pre) ev) ([⟨.newId, .ok id⟩, ⟨.now, .ok startedAt⟩] ++ tr)
    exact (guarded_append _ tr).mpr ⟨hfirst.guarded fun pre ev => hother _ ev, h⟩
  all_goals
    intros
    exact Quiet.guarded (by simp [Quiet, isAuthPassword]) fun pre ev => hother _ ev

/-- A check that asks one port: the trace of what follows starts with its answer. -/
theorem asked_guarded {c : PamCall} {f : c.Answer → Pam AccessResult} {m : Memory}
    {P : List PamEvent → PamEvent → Prop} (hc : isAuthPassword c = false)
    (hP : ∀ pre ev, isAuthPassword ev.1 = false → P pre ev)
    (hf : ∀ a, (f a).Ensures m fun tr _ _ => Guarded (fun pre ev => P (⟨c, .ok a⟩ :: pre) ev) tr) :
    (ask c >>= f).Ensures m fun tr _ _ => Guarded P tr := by
  rw [Prog.ensures_bind', ensures_ask]
  refine ⟨fun a => (hf a).mono fun tr o m' h => ?_, fun e => ?_⟩
  · exact (guarded_cons _ tr).mpr ⟨hP _ _ hc, h⟩
  · exact (guarded_cons _ _).mpr ⟨hP _ _ hc, guarded_nil⟩

theorem deny_guarded {P : List PamEvent → PamEvent → Prop}
    (hP : ∀ pre ev, isAuthPassword ev.1 = false → P pre ev) (request : AccessRequest)
    (decision : AccessDecision) (actorUserId : Option PyStr) (m : Memory) :
    (deny request decision actorUserId).Ensures m fun tr _ _ => Guarded P tr :=
  (Within.quiet (deny_within request decision actorUserId) (by simp) m).mono
    fun _ _ _ h => h.guarded hP

section

variable {connector : ParamikoSshConnector} {principal : AuthenticatedPrincipal}
  {request : AccessRequest}

theorem other_released (past pre : List PamEvent) (ev : PamEvent)
    (h : isAuthPassword ev.1 = false) :
    Released connector.sha256 principal request (past ++ pre) ev :=
  released_of_other h

theorem checkAccount_ensures (hid : principal.userId = request.userId)
    {policies : List AccessPolicy}
    (hallow : (PolicyEvaluation.decisionOf policies).effect = .allow) {target : Target}
    (htarget : target.enabled = true) (m : Memory) :
    ((sshService connector fuel d hd).checkAccount request (PolicyEvaluation.decisionOf policies)
      target portTerminal).Ensures m fun tr _ _ => Guarded (fun pre ev =>
        Released connector.sha256 principal request
          ([⟨.findMatching request.userId request.targetId request.action, .ok policies⟩,
            ⟨.getTarget request.targetId, .ok (some target)⟩] ++ pre) ev) tr := by
  refine asked_guarded (c := .findForTarget _) rfl (other_released [_, _]) fun account => ?_
  cases account with
  | none => exact deny_guarded (other_released [_, _, _]) request _ none m
  | some account =>
    by_cases haccount : account.enabled = true
    swap
    · simpa [haccount, denyWithReason] using
        deny_guarded (other_released [_, _, _]) request _ none m
    by_cases hmatch : account.targetId = target.id
    swap
    · simpa [haccount, hmatch, denyWithReason] using
        deny_guarded (other_released [_, _, _]) request _ none m
    simp only [haccount, hmatch, Bool.not_true, Bool.false_eq_true, ne_eq, not_true_eq_false,
      if_false]
    refine asked_guarded (c := .resolve _) rfl (other_released [_, _, _]) fun credential => ?_
    cases credential with
    | none => exact deny_guarded (other_released [_, _, _, _]) request _ none m
    | some credential =>
      obtain ⟨hne, hall⟩ := (PolicyEvaluation.decisionOf_effect_allow_iff policies).mp hallow
      obtain ⟨p, hp⟩ := List.exists_mem_of_ne_nil policies hne
      refine startSession_ensures connector fuel d hd principal request _
        ⟨policies, target, account, credential, [], request.requestedAt⟩ (fun _ _ => ?_) m
      exact ⟨hid, ⟨p, hp, hall p hp⟩, fun q hq => by simp [hall q hq],
        fun q hq => by simp [hall q hq], htarget, haccount, hmatch⟩

theorem checkTarget_ensures (hid : principal.userId = request.userId)
    {policies : List AccessPolicy}
    (hallow : (PolicyEvaluation.decisionOf policies).effect = .allow) (m : Memory) :
    ((sshService connector fuel d hd).checkTarget request (PolicyEvaluation.decisionOf policies)
      portTerminal).Ensures m fun tr _ _ => Guarded (fun pre ev =>
        Released connector.sha256 principal request
          ([⟨.findMatching request.userId request.targetId request.action, .ok policies⟩] ++ pre)
          ev) tr := by
  refine asked_guarded (c := .getTarget _) rfl (other_released [_]) fun target => ?_
  cases target with
  | none => exact deny_guarded (other_released [_, _]) request _ none m
  | some target =>
    by_cases htarget : target.enabled = true
    · simpa [htarget] using checkAccount_ensures fuel d hd hid hallow htarget m
    · simpa [htarget, denyWithReason] using
        deny_guarded (other_released [_, _]) request _ none m

end

/-- In every run, a password is only sent after all checks of the request. -/
theorem handle_releases_after_checks (principal : AuthenticatedPrincipal) (request : AccessRequest)
    (m : Memory) {tr : List PamEvent} {o : PamOutcome AccessResult} {m' : Memory}
    (hrun : ((sshService connector fuel d hd).handle principal request portTerminal).Run
      m tr o m') :
    Guarded (Released connector.sha256 principal request) tr := by
  suffices hhandle : ((sshService connector fuel d hd).handle principal request
      portTerminal).Ensures m fun tr _ _ => Guarded (Released connector.sha256 principal request) tr
    from hhandle tr o m' hrun
  by_cases hid : principal.userId = request.userId
  · simp only [AccessService.handle, hid, ne_eq, not_true_eq_false, if_false,
      PolicyEvaluation.evaluate, bind_assoc, pure_bind]
    refine asked_guarded (c := .findMatching _ _ _) rfl (other_released []) fun policies => ?_
    by_cases hallow : (PolicyEvaluation.decisionOf policies).effect = .allow
    · simpa [hallow] using checkTarget_ensures fuel d hd hid hallow m
    · simpa [hallow] using deny_guarded (other_released [_]) request _ none m
  · simpa [AccessService.handle, hid] using deny_guarded (other_released []) request _ _ m

end Handle

section Example

/-- The SHA-256 digest of the bytes 1, 2, 3. -/
def exampleDigest : Bytes :=
  [3, 144, 88, 198, 242, 192, 203, 73, 44, 83, 59, 10, 77, 20, 239, 119, 204, 15, 120, 171, 204,
    206, 213, 40, 125, 132, 161, 162, 1, 28, 251, 129]

def sshTarget : Target :=
  { exampleTarget with
    expectedHostKey := ⟨py "SHA256:A5BYxvLAy0ksUzsKTRTvd8wPeKvMztUofYShogEc+4E", by decide⟩ }

/-- Every check passes, the server presents its pinned key and then ends the channel. -/
def sshWorld (past : List PamEvent) : (c : PamCall) → Reply pamSignature c
  | .findMatching userId targetId action => .ok [⟨py "policy-1", userId, targetId, action, .allow⟩]
  | .getTarget _ => .ok (some sshTarget)
  | .findForTarget _ => .ok (some exampleAccount)
  | .resolve _ => .ok (some ⟨[115, 51]⟩)
  | .newId => .ok (DateTimes.padded 4 past.length)
  | .now => .ok (.utc 1000000 DateTimes.firstSecond_lt)
  | .createConnection _ _ _ => .ok (1 : ℕ)
  | .newTransport _ _ => .ok (2 : ℕ)
  | .getRemoteServerKey _ => .ok (3 : ℕ)
  | .asbytes _ => .ok ([1, 2, 3] : Bytes)
  | .isAuthenticated _ => .ok true
  | .openChannel _ => .ok (4 : ℕ)
  | .channelClosed _ => .ok true
  | .monotonic => .ok (0 : ℚ)
  | .append _ | .startClient _ _ | .authPassword _ _ _ | .getPty _ _ _ _ | .invokeShell _
  | .closeChannel _ | .closeTransport _ | .closeSocket _ => .ok ()
  | _ => .error (raised .otherException [])

def sshConnector : ParamikoSshConnector := ⟨fun _ => exampleDigest, 10⟩

def sshRun : Option (List PamEvent × PamOutcome AccessResult × Memory) :=
  ((sshService sshConnector 1 1 Int.one_pos).handle examplePrincipal exampleRequest
    portTerminal).exec sshWorld [] exampleMemory

theorem handle_releases_after_checks_example : ∃ tr o m', sshRun = some (tr, o, m') ∧
    (∃ ev ∈ tr, isAuthPassword ev.1 = true) ∧
    Guarded (Released sshConnector.sha256 examplePrincipal exampleRequest) tr := by
  obtain ⟨tr, o, m', hexec, hauth⟩ : ∃ tr o m', sshRun = some (tr, o, m') ∧
      ∃ ev ∈ tr, isAuthPassword ev.1 = true := ⟨_, _, _, rfl, by decide⟩
  exact ⟨tr, o, m', hexec, hauth, handle_releases_after_checks sshConnector 1 1 Int.one_pos _ _ _
    (Prog.run_exec _ _ _ _ _ _ _ hexec)⟩

end Example

end PamMvp.CredentialRelease
