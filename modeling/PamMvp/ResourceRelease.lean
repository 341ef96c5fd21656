import PamMvp.CredentialRelease

/-!
# Every SSH resource is released exactly once

The trace of a run shows which sockets, transports and raw channels were created
and which close calls were made. Ownership moves from the connector to the
brokered session; each part below says what it owes when it returns and that it
owes nothing when it raises. Interrupts are excluded: a call returns or raises
an `Exception`.
-/
namespace PamMvp.ResourceRelease
open InteractionPrograms PythonText DomainModel SessionLifecycle PamCalls AccessHandling
open SshConnecting BrokeredSessions CallFootprints CredentialRelease

inductive Resource where
  | socket (handle : Handle)
  | transport (handle : Handle)
  | channel (handle : Handle)
  deriving DecidableEq

inductive Use where
  | opened (resource : Resource)
  | closed (resource : Resource) (normally : Bool)
  deriving DecidableEq

def succeeded {α : Type} : Except PyExn α → Bool
  | .ok _ => true
  | .error _ => false

def useOne : PamEvent → Option Use
  | ⟨.createConnection _ _ _, .ok socket⟩ => some (.opened (.socket socket))
  | ⟨.newTransport _ _, .ok transport⟩ => some (.opened (.transport transport))
  | ⟨.openChannel _, .ok channel⟩ => some (.opened (.channel channel))
  | ⟨.closeSocket socket, r⟩ => some (.closed (.socket socket) (succeeded r))
  | ⟨.closeTransport transport, r⟩ => some (.closed (.transport transport) (succeeded r))
  | ⟨.closeChannel channel, r⟩ => some (.closed (.channel channel) (succeeded r))
  | _ => none

/-- The creations and the close calls of a trace, in order. -/
def uses (tr : List PamEvent) : List Use := tr.filterMap useOne

@[simp] theorem uses_nil : uses [] = [] := rfl

@[simp] theorem uses_cons (ev : PamEvent) (tr : List PamEvent) :
    uses (ev :: tr) = (useOne ev).toList ++ uses tr := by
  cases h : useOne ev <;> simp [uses, h]

@[simp] theorem uses_append (tr tr' : List PamEvent) : uses (tr ++ tr') = uses tr ++ uses tr' := by
  simp [uses]

def openedOne : Use → Option Resource
  | .opened r => some r
  | .closed _ _ => none

def closedOne : Use → Option Resource
  | .opened _ => none
  | .closed r _ => some r

/-- Every created resource was closed once, and nothing else was closed. -/
structure Balanced (us : List Use) : Prop where
  distinct : (us.filterMap openedOne).Nodup
  released : (us.filterMap closedOne).Perm (us.filterMap openedOne)

theorem balanced_nil : Balanced [] := ⟨by simp, by simp⟩

theorem balanced_socket (socket : Handle) (a : Bool) :
    Balanced [.opened (.socket socket), .closed (.socket socket) a] :=
  ⟨by simp [List.filterMap_cons, openedOne], List.reverse_perm [Resource.socket socket]⟩

theorem balanced_connection (socket transport : Handle) (a b : Bool) :
    Balanced [.opened (.socket socket), .opened (.transport transport),
      .closed (.transport transport) a, .closed (.socket socket) b] :=
  ⟨by simp [List.filterMap_cons, openedOne],
    List.reverse_perm [Resource.socket socket, .transport transport]⟩

theorem balanced_session (socket transport channel : Handle) (a b c : Bool) :
    Balanced [.opened (.socket socket), .opened (.transport transport), .opened (.channel channel),
      .closed (.channel channel) a, .closed (.transport transport) b, .closed (.socket socket) c] :=
  ⟨by simp [List.filterMap_cons, openedOne],
    List.reverse_perm [Resource.socket socket, .transport transport, .channel channel]⟩

def calmReply {α : Type} : Except PyExn α → Bool
  | .ok _ => true
  | .error e => PyExn.isException e

/-- The call returned or raised an `Exception`: it was not interrupted. -/
def Calm (ev : PamEvent) : Prop := calmReply ev.2 = true

abbrev CalmlyEnsures {α : Type} (p : Pam α) (m : Memory)
    (Q : List PamEvent → PamOutcome α → Memory → Prop) : Prop :=
  Prog.EnsuresWhen (S := pamSignature) Calm p m Q

theorem calmly_ask {c : PamCall} {m : Memory}
    {Q : List PamEvent → PamOutcome c.Answer → Memory → Prop}
    (hok : ∀ a, Q [⟨c, .ok a⟩] (.ret a) m)
    (herror : ∀ e, PyExn.isException e = true → Q [⟨c, .error e⟩] (.raise e) m) :
    CalmlyEnsures (ask c) m Q :=
  Prog.ensuresWhen_perform (S := pamSignature) (fun a _ => hok a) fun e h => herror e h

theorem calmly_exceptException {α : Type} {p : Pam α} {handler : PyExn → Pam α} {m : Memory}
    {P Q : List PamEvent → PamOutcome α → Memory → Prop} (hp : CalmlyEnsures p m P)
    (hret : ∀ tr a m', P tr (.ret a) m' → Q tr (.ret a) m')
    (hraise : ∀ tr e m', P tr (.raise e) m' → PyExn.isException e = true ∧
      CalmlyEnsures (handler e) m' fun tr' o m'' => Q (tr ++ tr') o m'') :
    CalmlyEnsures (exceptException p handler) m Q := by
  refine hp.tryExcept hret fun tr e m' h => ?_
  have hboth := hraise tr e m' h
  simpa [hboth.1] using hboth.2

/-- An outcome without an interrupt. -/
def Ordinary {α : Type} (o : PamOutcome α) : Prop :=
  ∀ e, o = .raise e → PyExn.isException e = true

section

variable {α β : Type} {m : Memory}

/-- The program changes no memory and touches no resource. -/
def Idle (p : Pam α) : Prop :=
  ∀ m, CalmlyEnsures p m fun tr o m' => m' = m ∧ uses tr = [] ∧ Ordinary o

theorem idle_ask {c : PamCall} (hc : ∀ r, useOne ⟨c, r⟩ = none) : Idle (ask c) := by
  intro m
  refine calmly_ask (fun a => ⟨rfl, by simp [hc], by simp [Ordinary]⟩) fun e he => ?_
  exact ⟨rfl, by simp [hc], by simpa [Ordinary] using he⟩

theorem idle_throw {e : PyExn} (he : PyExn.isException e = true) : Idle (throw e : Pam α) := by
  intro m
  refine (Prog.ensuresWhen_raise (S := pamSignature) e m _).mpr ⟨rfl, rfl, ?_⟩
  simpa [Ordinary] using he

theorem idle_pure (a : α) : Idle (pure a : Pam α) := by
  intro m
  exact (Prog.ensuresWhen_pure a m _).mpr ⟨rfl, rfl, by simp [Ordinary]⟩

theorem Idle.bind {p : Pam α} {f : α → Pam β} (hp : Idle p) (hf : ∀ a, Idle (f a)) :
    Idle (p >>= f) := by
  intro m
  refine (hp m).bind ?_ ?_
  · intro tr a m' h
    refine (hf a m').mono fun tr' o m'' h' => ⟨h'.1.trans h.1, ?_, h'.2.2⟩
    simp [h.2.1, h'.2.1]
  · intro tr e m' h
    exact ⟨h.1, h.2.1, by simpa [Ordinary] using h.2.2⟩

theorem Idle.ite {c : Prop} [Decidable c] {p q : Pam α} (hp : Idle p) (hq : Idle q) :
    Idle (if c then p else q) := by
  split
  · exact hp
  · exact hq

theorem Idle.exceptWhere {caught : PyExn → Bool} {p : Pam α} {handler : PyExn → Pam α}
    (hp : Idle p) (hh : ∀ e, Idle (handler e)) : Idle (exceptWhere caught p handler) := by
  intro m
  refine Prog.EnsuresWhen.tryExcept (hp m) ?_ ?_
  · exact fun tr a m' h => ⟨h.1, h.2.1, by simp [Ordinary]⟩
  · intro tr e m' h
    have hthrow : Idle (if caught e then handler e else throw e) :=
      Idle.ite (hh e) (idle_throw (h.2.2 e rfl))
    refine (hthrow m').mono fun tr' o m'' h' => ⟨h'.1.trans h.1, ?_, h'.2.2⟩
    simp [h.2.1, h'.2.1]

theorem idle_lift {r : Except PyExn α} (hr : ∀ e, r = .error e → PyExn.isException e = true) :
    Idle (lift r) := by
  cases r with
  | ok a => exact idle_pure a
  | error e => exact idle_throw (hr e rfl)

/-- One close call: it is recorded with its success, and nothing else changes. -/
theorem close_ensures {c : PamCall} {resource : Resource} (m : Memory)
    (hc : ∀ r, useOne ⟨c, r⟩ = some (.closed resource (succeeded r))) :
    CalmlyEnsures (ask c) m fun tr o m' => m' = m ∧ Ordinary o ∧
      ∃ ok, uses tr = [.closed resource ok] ∧ ∀ a, o = .ret a → ok = true := by
  refine calmly_ask (fun a => ?_) fun e he => ?_
  · exact ⟨rfl, by simp [Ordinary], true, by simp [hc, succeeded], by simp⟩
  · exact ⟨rfl, by simpa [Ordinary] using he, false, by simp [hc, succeeded], by simp⟩

/-- A program that returns a new resource, or raises without one. -/
def Opens (w : α → Resource) (p : Pam α) : Prop :=
  ∀ m, CalmlyEnsures p m fun tr o m' => m' = m ∧ Ordinary o ∧
    ((∃ a, o = .ret a ∧ uses tr = [.opened (w a)]) ∨ ∃ e, o = .raise e ∧ uses tr = [])

theorem opens_ask {c : PamCall} {w : c.Answer → Resource}
    (hok : ∀ a, useOne ⟨c, .ok a⟩ = some (.opened (w a)))
    (herror : ∀ e, useOne ⟨c, .error e⟩ = none) : Opens w (ask c) := by
  intro m
  refine calmly_ask (fun a => ?_) fun e he => ?_
  · exact ⟨rfl, by simp [Ordinary], .inl ⟨a, rfl, by simp [hok]⟩⟩
  · exact ⟨rfl, by simpa [Ordinary] using he, .inr ⟨e, rfl, by simp [herror]⟩⟩

theorem Opens.exceptWhere {w : α → Resource} {p : Pam α} (hp : Opens w p) (caught : PyExn → Bool)
    {error : PyExn} (herror : PyExn.isException error = true) :
    Opens w (exceptWhere caught p fun _ => throw error) := by
  intro m
  refine (hp m).tryExcept (fun tr a m' h => h) fun tr e m' h => ?_
  obtain ⟨rfl, ho, ⟨a, hret, -⟩ | ⟨e', -, hu⟩⟩ := h
  · cases hret
  · have hthrow (e' : PyExn) (he' : PyExn.isException e' = true) : CalmlyEnsures (throw e' : Pam α)
        m' fun tr' o m'' => m'' = m' ∧ Ordinary o ∧
          ((∃ a, o = .ret a ∧ uses (tr ++ tr') = [.opened (w a)]) ∨
            ∃ e, o = .raise e ∧ uses (tr ++ tr') = []) :=
      (Prog.ensuresWhen_raise (S := pamSignature) _ _ _).mpr
        ⟨rfl, by simpa [Ordinary] using he', .inr ⟨e', rfl, by simp [hu]⟩⟩
    cases caught e with
    | true => exact hthrow error herror
    | false => exact hthrow e (ho e rfl)

theorem suppressed_ensures {p : Pam Unit} {F : List Use → Memory → Prop}
    (hp : CalmlyEnsures p m fun tr o m' => F (uses tr) m' ∧ Ordinary o) :
    CalmlyEnsures (suppressed p) m fun tr o m' => F (uses tr) m' ∧ o = .ret () := by
  refine calmly_exceptException hp (fun tr _ m' h => ⟨h.1, rfl⟩) fun tr e m' h => ?_
  refine ⟨h.2 e rfl, (Prog.ensuresWhen_pure _ _ _).mpr ⟨?_, rfl⟩⟩
  simpa using h.1

end

section Connect

theorem closeIfOpen_ensures {close : Handle → Pam Unit} {w : Handle → Resource}
    (hclose : ∀ h m, CalmlyEnsures (close h) m fun tr o m' => m' = m ∧ Ordinary o ∧
      ∃ ok, uses tr = [.closed (w h) ok] ∧ ∀ a, o = .ret a → ok = true)
    (resource : Option Handle) (m : Memory) :
    CalmlyEnsures (closeIfOpen close resource) m fun tr o m' => m' = m ∧ o = .ret () ∧
      ∃ ok, uses tr = (resource.map fun h => Use.closed (w h) ok).toList := by
  cases resource with
  | none => exact (Prog.ensuresWhen_pure _ _ _).mpr ⟨rfl, rfl, true, rfl⟩
  | some h =>
    have hsup := suppressed_ensures (F := fun us m' => m' = m ∧ ∃ ok, us = [.closed (w h) ok])
      ((hclose h m).mono fun tr o m' hp => ?_)
    · refine hsup.mono fun tr o m' hp => ⟨hp.1.1, hp.2, ?_⟩
      simpa using hp.1.2
    · obtain ⟨hm, ho, ok, hu, -⟩ := hp
      exact ⟨⟨hm, ok, hu⟩, ho⟩

theorem closeResources_ensures (transport : Option Handle) (socket : Handle) (m : Memory) :
    CalmlyEnsures (closeResources transport (some socket)) m fun tr o m' => m' = m ∧ o = .ret () ∧
      ∃ a b, uses tr = (transport.map fun t => Use.closed (.transport t) a).toList ++
        [.closed (.socket socket) b] := by
  refine (closeIfOpen_ensures (w := .transport) (fun h m => close_ensures m fun r => rfl)
    transport m).bind ?_ ?_
  · intro tr _ m₁ h
    obtain ⟨rfl, -, a, hu⟩ := h
    refine (closeIfOpen_ensures (w := .socket) (fun h m => close_ensures m fun r => rfl)
      (some socket) m₁).mono fun tr' o m₂ h' => ?_
    obtain ⟨rfl, ho, b, hu'⟩ := h'
    exact ⟨rfl, ho, a, b, by simp [hu, hu']⟩
  · intro tr e m₁ h
    cases h.2.1

/-- What only the access service changes. -/
def Kept (m m' : Memory) : Prop :=
  m'.session = m.session ∧ m'.closeSucceeded = m.closeSucceeded

theorem Kept.trans {m₁ m₂ m₃ : Memory} (h : Kept m₂ m₃) (h' : Kept m₁ m₂) : Kept m₁ m₃ :=
  ⟨h.1.trans h'.1, h.2.trans h'.2⟩

theorem negotiate_ensures (connector : ParamikoSshConnector) (target : Target) (socket : Handle)
    {m : Memory} (hm : m.transport = none) :
    CalmlyEnsures (connector.negotiate target socket) m fun tr o m' => Kept m m' ∧
      ((∃ transport key, o = .ret (transport, key) ∧ uses tr = [.opened (.transport transport)]) ∨
      ∃ e, o = .raise e ∧ PyExn.isException e = true ∧
        Balanced (.opened (.socket socket) :: uses tr)) := by
  refine calmly_exceptException (P := fun tr o m' => Kept m m' ∧ Ordinary o ∧
    ((∃ transport key, o = .ret (transport, key) ∧ uses tr = [.opened (.transport transport)]) ∨
    ∃ e, o = .raise e ∧ uses tr = (m'.transport.map fun t => Use.opened (.transport t)).toList))
    ?_ ?_ ?_
  · have hopen : Opens Resource.transport (ask (.newTransport socket sshDisabledAlgorithms)) :=
      opens_ask (fun _ => rfl) fun _ => rfl
    refine (hopen m).bind ?_ ?_
    · intro tr t m₁ h
      obtain ⟨rfl, -, ⟨t', ht, hu⟩ | ⟨e, he, -⟩⟩ := h
      · cases ht
        rw [Prog.ensuresWhen_modify_bind]
        have hrest : CalmlyEnsures (do
            ask (.startClient t connector.connectTimeout)
            let serverKey ← ask (.getRemoteServerKey t)
            return (t, serverKey)) { m₁ with transport := some t } fun tr o m' =>
              m' = { m₁ with transport := some t } ∧ uses tr = [] ∧ Ordinary o ∧
                ((∃ key, o = .ret (t, key)) ∨ ∃ e, o = .raise e) := by
          refine (idle_ask (c := .startClient t _) (fun r => rfl) _).bind ?_ ?_
          · intro tr₂ _ m₂ h₂
            refine (idle_ask (c := .getRemoteServerKey t) (fun r => rfl) m₂).bind ?_ ?_
            · intro tr₃ key m₃ h₃
              refine (Prog.ensuresWhen_pure _ _ _).mpr ⟨h₃.1.trans h₂.1, ?_, ?_, .inl ⟨key, rfl⟩⟩
              · simp [h₂.2.1, h₃.2.1]
              · simp [Ordinary]
            · intro tr₃ e m₃ h₃
              refine ⟨h₃.1.trans h₂.1, by simp [h₂.2.1, h₃.2.1], ?_, .inr ⟨e, rfl⟩⟩
              simpa [Ordinary] using h₃.2.2
          · intro tr₂ e m₂ h₂
            exact ⟨h₂.1, h₂.2.1, by simpa [Ordinary] using h₂.2.2, .inr ⟨e, rfl⟩⟩
        refine hrest.mono fun tr' o m₂ h' => ?_
        obtain ⟨rfl, hu', ho, ⟨key, rfl⟩ | ⟨e, rfl⟩⟩ := h'
        · exact ⟨⟨rfl, rfl⟩, ho, .inl ⟨t, key, rfl, by simp [hu, hu']⟩⟩
        · exact ⟨⟨rfl, rfl⟩, ho, .inr ⟨e, rfl, by simp [hu, hu']⟩⟩
      · cases he
    · intro tr e m₁ h
      obtain ⟨rfl, ho, ⟨t, ht, -⟩ | ⟨e', he, hu⟩⟩ := h
      · cases ht
      · cases he
        exact ⟨⟨rfl, rfl⟩, by simpa [Ordinary] using ho, .inr ⟨e, rfl, by simp [hu, hm]⟩⟩
  · intro tr negotiated m' h
    obtain ⟨hkept, -, ⟨t, key, hret, hu⟩ | ⟨e, he, -⟩⟩ := h
    · exact ⟨hkept, .inl ⟨t, key, hret, hu⟩⟩
    · cases he
  · intro tr e m' h
    obtain ⟨hkept, ho, ⟨t, key, hret, -⟩ | ⟨e', he, hu⟩⟩ := h
    · cases hret
    · refine ⟨ho e rfl, ?_⟩
      refine (Prog.ensuresWhen_memory_bind _ m' _).mpr ?_
      refine (closeResources_ensures m'.transport socket m').bind ?_ ?_
      · intro tr' _ m'' h'
        obtain ⟨rfl, -, a, b, hu'⟩ := h'
        refine (Prog.ensuresWhen_raise (S := pamSignature) _ _ _).mpr
          ⟨hkept, .inr ⟨_, rfl, rfl, ?_⟩⟩
        cases ht : m''.transport with
        | none => simpa [hu, hu', ht] using balanced_socket socket b
        | some t => simpa [hu, hu', ht] using balanced_connection socket t a b
      · intro tr' e' m'' h'
        cases h'.2.1

theorem closingOnError_ensures {transport socket : Handle} {cls : ExnClass} {error : PyExn}
    (herror : PyExn.isException error = true) {p : Pam Unit} (hp : Idle p) (m : Memory) :
    CalmlyEnsures (ParamikoSshConnector.closingOnError transport socket cls error p) m
      fun tr o m' => m' = m ∧ ((o = .ret () ∧ uses tr = []) ∨
        ∃ e a b, o = .raise e ∧ PyExn.isException e = true ∧
          uses tr = [.closed (.transport transport) a, .closed (.socket socket) b]) := by
  refine calmly_exceptException (hp m) ?_ ?_
  · intro tr _ m' h
    exact ⟨h.1, .inl ⟨rfl, h.2.1⟩⟩
  · intro tr e m' h
    refine ⟨h.2.2 e rfl, (closeResources_ensures (some transport) socket m').bind ?_ ?_⟩
    · intro tr' _ m'' h'
      obtain ⟨rfl, -, a, b, hu⟩ := h'
      refine (Prog.ensuresWhen_raise (S := pamSignature) _ _ _).mpr
        ⟨h.1, .inr ⟨_, a, b, rfl, ?_, by simp [h.2.1, hu]⟩⟩
      split
      · exact h.2.2 e rfl
      · exact herror
    · intro tr' e' m'' h'
      cases h'.2.1

theorem verifyPinnedHostKey_idle (sha256 : Bytes → Bytes) (target : Target) (serverKey : Handle) :
    Idle (verifyPinnedHostKey sha256 target serverKey) := by
  refine (idle_ask fun r => rfl).bind fun keyBlob => Idle.bind (idle_lift ?_) fun equal => ?_
  · intro e he
    unfold compareDigest at he
    split at he
    · cases he
    · cases he
      rfl
  · cases equal with
    | true => exact idle_pure ()
    | false => exact idle_throw rfl

theorem authenticate_idle (transport : Handle) (account : PrivilegedAccount)
    (credential : BrokerCredential) :
    Idle (ParamikoSshConnector.authenticate transport account credential) := by
  unfold ParamikoSshConnector.authenticate
  cases decodeUtf8 credential.value with
  | none => exact idle_throw rfl
  | some password =>
    refine Idle.bind (Idle.exceptWhere (idle_ask fun r => rfl) fun _ => idle_throw rfl) fun _ => ?_
    refine (idle_ask fun r => rfl).bind fun authenticated => ?_
    cases authenticated with
    | true => exact idle_pure ()
    | false => exact idle_throw rfl

theorem createConnection_opens (connector : ParamikoSshConnector) (target : Target) :
    Opens Resource.socket (connector.createConnection target) :=
  (opens_ask (fun _ => rfl) fun _ => rfl).exceptWhere _ rfl

/-- A connection that was returned owns its socket and its transport; one that
was not returned owns nothing. -/
theorem connect_ensures (connector : ParamikoSshConnector) (target : Target)
    (account : PrivilegedAccount) (credential : BrokerCredential) (m : Memory) :
    CalmlyEnsures (connector.connect target account credential) m fun tr o m' => Kept m m' ∧
      ((∃ connection : VerifiedSshConnection, o = .ret connection ∧ m'.connectionClosed = false ∧
        uses tr = [.opened (.socket connection.socket),
          .opened (.transport connection.transport)]) ∨
      ∃ e, o = .raise e ∧ PyExn.isException e = true ∧ Balanced (uses tr)) := by
  refine (Prog.ensuresWhen_modify_bind _ _ m _).mpr ?_
  refine (createConnection_opens connector target _).bind ?_ ?_
  · intro tr₁ socket m₁ h₁
    obtain ⟨rfl, -, ⟨socket', hret, hu₁⟩ | ⟨e, he, -⟩⟩ := h₁
    · cases hret
      refine (negotiate_ensures connector target socket rfl).bind ?_ ?_
      · intro tr₂ negotiated m₂ h₂
        obtain ⟨hkept, ⟨transport, key, hret, hu₂⟩ | ⟨e, he, -⟩⟩ := h₂
        · cases hret
          refine (closingOnError_ensures rfl (verifyPinnedHostKey_idle _ _ _) m₂).bind ?_ ?_
          · intro tr₃ _ m₃ h₃
            obtain ⟨rfl, ⟨-, hu₃⟩ | ⟨e, a, b, he, -⟩⟩ := h₃
            · refine (closingOnError_ensures rfl (authenticate_idle _ _ _) m₃).bind ?_ ?_
              · intro tr₄ _ m₄ h₄
                obtain ⟨rfl, ⟨-, hu₄⟩ | ⟨e, a, b, he, -⟩⟩ := h₄
                · refine (Prog.ensuresWhen_modify_bind _ _ m₄ _).mpr ?_
                  refine (Prog.ensuresWhen_pure _ _ _).mpr ⟨hkept, .inl ⟨_, rfl, rfl, ?_⟩⟩
                  simp [hu₁, hu₂, hu₃, hu₄]
                · cases he
              · intro tr₄ e m₄ h₄
                obtain ⟨rfl, ⟨he, -⟩ | ⟨e', a, b, he, hexc, hu₄⟩⟩ := h₄
                · cases he
                · cases he
                  refine ⟨hkept, .inr ⟨e, rfl, hexc, ?_⟩⟩
                  simpa [hu₁, hu₂, hu₃, hu₄] using balanced_connection socket transport a b
            · cases he
          · intro tr₃ e m₃ h₃
            obtain ⟨rfl, ⟨he, -⟩ | ⟨e', a, b, he, hexc, hu₃⟩⟩ := h₃
            · cases he
            · cases he
              refine ⟨hkept, .inr ⟨e, rfl, hexc, ?_⟩⟩
              simpa [hu₁, hu₂, hu₃] using balanced_connection socket transport a b
        · cases he
      · intro tr₂ e m₂ h₂
        obtain ⟨hkept, ⟨transport, key, hret, -⟩ | ⟨e', he, hexc, hbal⟩⟩ := h₂
        · cases hret
        · cases he
          exact ⟨hkept, .inr ⟨e, rfl, hexc, by simpa [hu₁] using hbal⟩⟩
    · cases he
  · intro tr₁ e m₁ h₁
    obtain ⟨rfl, ho, ⟨socket, hret, -⟩ | ⟨e', -, hu⟩⟩ := h₁
    · cases hret
    · exact ⟨⟨rfl, rfl⟩, .inr ⟨e, rfl, ho e rfl, by simpa [hu] using balanced_nil⟩⟩

end Connect

section Channel

theorem requestOrClose_ensures {channel : Handle} {request : Pam Unit} (hreq : Idle request)
    (message : PyStr) (m : Memory) :
    CalmlyEnsures (InteractiveSshChannel.requestOrClose channel request message) m fun tr o m' =>
      m' = m ∧ ((o = .ret () ∧ uses tr = []) ∨ ∃ e a, o = .raise e ∧
        PyExn.isException e = true ∧ uses tr = [.closed (.channel channel) a]) := by
  refine calmly_exceptException (hreq m) ?_ ?_
  · intro tr _ m' h
    exact ⟨h.1, .inl ⟨rfl, h.2.1⟩⟩
  · intro tr e m' h
    refine ⟨h.2.2 e rfl, (suppressed_ensures (F := fun us m'' => m'' = m' ∧
      ∃ a, us = [.closed (.channel channel) a])
        ((close_ensures m' fun r => rfl).mono ?_)).bind ?_ ?_⟩
    · intro tr' o m'' h'
      obtain ⟨hm, ho, a, hu, -⟩ := h'
      exact ⟨⟨hm, a, hu⟩, ho⟩
    · intro tr' _ m'' h'
      obtain ⟨⟨rfl, a, hu⟩, -⟩ := h'
      exact (Prog.ensuresWhen_raise (S := pamSignature) _ _ _).mpr
        ⟨h.1, .inr ⟨_, a, rfl, rfl, by simp [h.2.1, hu]⟩⟩
    · intro tr' e' m'' h'
      cases h'.2

theorem openSessionChannel_opens (connection : VerifiedSshConnection) :
    Opens Resource.channel connection.openSessionChannel := by
  intro m
  refine (Prog.ensuresWhen_memory_bind _ m _).mpr ?_
  cases m.connectionClosed with
  | true =>
    refine (Prog.ensuresWhen_raise (S := pamSignature) _ _ _).mpr ⟨rfl, ?_, .inr ⟨_, rfl, rfl⟩⟩
    rintro e ⟨⟩
    rfl
  | false =>
    exact (opens_ask (c := .openChannel _) (w := Resource.channel) (fun _ => rfl) fun _ => rfl) m

/-- The channel part of a session in front of the releases it may already have. -/
theorem openChannel_ensures (connection : VerifiedSshConnection) {m : Memory}
    (hm : m.connectionClosed = false) :
    CalmlyEnsures (InteractiveSshChannel.open connection) m fun tr o m' => Kept m m' ∧
      m'.connectionClosed = false ∧
      ((∃ channel : InteractiveSshChannel, o = .ret channel ∧ m'.channelClosed = false ∧
        uses tr = [.opened (.channel channel.channel)]) ∨
      ∃ e, o = .raise e ∧ PyExn.isException e = true ∧ (uses tr = [] ∨ ∃ channel a,
        uses tr = [.opened (.channel channel), .closed (.channel channel) a])) := by
  refine ((openSessionChannel_opens connection).exceptWhere _ rfl m).bind ?_ ?_
  · intro tr₁ channel m₁ h₁
    obtain ⟨rfl, -, ⟨channel', hret, hu₁⟩ | ⟨e, he, -⟩⟩ := h₁
    · cases hret
      refine (requestOrClose_ensures (idle_ask fun r => rfl) _ m₁).bind ?_ ?_
      · intro tr₂ _ m₂ h₂
        obtain ⟨rfl, ⟨-, hu₂⟩ | ⟨e, a, he, -⟩⟩ := h₂
        · refine (requestOrClose_ensures (idle_ask fun r => rfl) _ m₂).bind ?_ ?_
          · intro tr₃ _ m₃ h₃
            obtain ⟨rfl, ⟨-, hu₃⟩ | ⟨e, a, he, -⟩⟩ := h₃
            · refine (Prog.ensuresWhen_modify_bind _ _ m₃ _).mpr ?_
              refine (Prog.ensuresWhen_pure _ _ _).mpr ⟨⟨rfl, rfl⟩, hm, .inl ⟨_, rfl, rfl, ?_⟩⟩
              simp [hu₁, hu₂, hu₃]
            · cases he
          · intro tr₃ e m₃ h₃
            obtain ⟨rfl, ⟨he, -⟩ | ⟨e', a, he, hexc, hu₃⟩⟩ := h₃
            · cases he
            · cases he
              exact ⟨⟨rfl, rfl⟩, hm,
                .inr ⟨e, rfl, hexc, .inr ⟨channel, a, by simp [hu₁, hu₂, hu₃]⟩⟩⟩
        · cases he
      · intro tr₂ e m₂ h₂
        obtain ⟨rfl, ⟨he, -⟩ | ⟨e', a, he, hexc, hu₂⟩⟩ := h₂
        · cases he
        · cases he
          exact ⟨⟨rfl, rfl⟩, hm, .inr ⟨e, rfl, hexc, .inr ⟨channel, a, by simp [hu₁, hu₂]⟩⟩⟩
    · cases he
  · intro tr₁ e m₁ h₁
    obtain ⟨rfl, ho, ⟨channel, hret, -⟩ | ⟨e', -, hu⟩⟩ := h₁
    · cases hret
    · exact ⟨⟨rfl, rfl⟩, hm, .inr ⟨e, rfl, ho e rfl, .inl hu⟩⟩

theorem closeConnection_ensures (connection : VerifiedSshConnection) {m : Memory}
    (hm : m.connectionClosed = false) :
    CalmlyEnsures connection.close m fun tr o m' => Kept m m' ∧ Ordinary o ∧
      ∃ a b, uses tr = [.closed (.transport connection.transport) a,
        .closed (.socket connection.socket) b] ∧ (o = .ret () → a = true ∧ b = true) := by
  refine (Prog.ensuresWhen_memory_bind _ m _).mpr ?_
  rw [hm]
  refine (Prog.ensuresWhen_modify_bind _ _ m _).mpr ?_
  refine Prog.EnsuresWhen.tryFinally (close_ensures _ fun r => rfl) ?_
  intro tr o m₁ h₁
  obtain ⟨rfl, ho, a, hu, ha⟩ := h₁
  refine (close_ensures (c := .closeSocket connection.socket) _ fun r => rfl).mono ?_
  intro tr' o' m₂ h₂
  obtain ⟨rfl, ho', b, hu', hb⟩ := h₂
  refine ⟨fun hret => ⟨⟨rfl, rfl⟩, ho, a, b, by simp [hu, hu'], fun h => ⟨ha _ h, hb _ hret⟩⟩, ?_⟩
  exact fun e he => ⟨⟨rfl, rfl⟩, by simpa [Ordinary] using ho' e he, a, b,
    by simp [hu, hu'], by simp⟩

/-- A brokered session that was returned owns three resources; one that was not
returned owns nothing. -/
theorem openSession_ensures (connector : ParamikoSshConnector) (target : Target)
    (account : PrivilegedAccount) (credential : BrokerCredential) (m : Memory) :
    CalmlyEnsures (openSession connector target account credential) m fun tr o m' => Kept m m' ∧
      ((∃ session : ParamikoBrokeredSession, o = .ret session ∧ m'.brokeredClosed = false ∧
        m'.channelClosed = false ∧ m'.connectionClosed = false ∧
        uses tr = [.opened (.socket session.connection.socket),
          .opened (.transport session.connection.transport),
          .opened (.channel session.channel.channel)]) ∨
      ∃ e, o = .raise e ∧ PyExn.isException e = true ∧ Balanced (uses tr)) := by
  refine (connect_ensures connector target account credential m).bind ?_ ?_
  · intro tr₁ connection m₁ h₁
    obtain ⟨hkept, ⟨connection', hret, hopen, hu₁⟩ | ⟨e, he, -⟩⟩ := h₁
    · cases hret
      have hchannel : CalmlyEnsures (exceptException (InteractiveSshChannel.open connection)
          fun e => do
            suppressed connection.close
            throw e) m₁ fun tr o m' => Kept m m' ∧ ((∃ channel : InteractiveSshChannel,
              o = .ret channel ∧ m'.channelClosed = false ∧ m'.connectionClosed = false ∧
              uses tr = [.opened (.channel channel.channel)]) ∨
            ∃ e, o = .raise e ∧ PyExn.isException e = true ∧ Balanced
              ([.opened (.socket connection.socket), .opened (.transport connection.transport)] ++
                uses tr)) := by
        refine calmly_exceptException (openChannel_ensures connection hopen) ?_ ?_
        · intro tr channel m₂ h₂
          obtain ⟨hkept₂, hco, ⟨channel', hret, hch, hu₂⟩ | ⟨e, he, -⟩⟩ := h₂
          · exact ⟨hkept₂.trans hkept, .inl ⟨channel', hret, hch, hco, hu₂⟩⟩
          · cases he
        · intro tr e m₂ h₂
          obtain ⟨hkept₂, hco, ⟨channel, hret, -⟩ | ⟨e', he, hexc, hu₂⟩⟩ := h₂
          · cases hret
          · cases he
            refine ⟨hexc, (suppressed_ensures (F := fun us m' => Kept m₂ m' ∧ ∃ a b,
              us = [.closed (.transport connection.transport) a,
                .closed (.socket connection.socket) b])
              ((closeConnection_ensures connection hco).mono ?_)).bind ?_ ?_⟩
            · intro tr' o m₃ h₃
              obtain ⟨hkept₃, ho, a, b, hu₃, -⟩ := h₃
              exact ⟨⟨hkept₃, a, b, hu₃⟩, ho⟩
            · intro tr' _ m₃ h₃
              obtain ⟨⟨hkept₃, a, b, hu₃⟩, -⟩ := h₃
              refine (Prog.ensuresWhen_raise (S := pamSignature) _ _ _).mpr
                ⟨hkept₃.trans (hkept₂.trans hkept), .inr ⟨e, rfl, hexc, ?_⟩⟩
              rcases hu₂ with hu₂ | ⟨channel, c, hu₂⟩
              · simpa [hu₂, hu₃] using
                  balanced_connection connection.socket connection.transport a b
              · simpa [hu₂, hu₃] using
                  balanced_session connection.socket connection.transport channel c a b
            · intro tr' e' m₃ h₃
              cases h₃.2
      refine hchannel.bind ?_ ?_
      · intro tr₂ channel m₂ h₂
        obtain ⟨hkept₂, ⟨channel', hret, hch, hco, hu₂⟩ | ⟨e, he, -⟩⟩ := h₂
        · cases hret
          refine (Prog.ensuresWhen_modify_bind _ _ m₂ _).mpr ?_
          refine (Prog.ensuresWhen_pure _ _ _).mpr ⟨hkept₂, .inl ⟨_, rfl, rfl, hch, hco, ?_⟩⟩
          simp [hu₁, hu₂]
        · cases he
      · intro tr₂ e m₂ h₂
        obtain ⟨hkept₂, ⟨channel, hret, -⟩ | ⟨e', he, hexc, hbal⟩⟩ := h₂
        · cases hret
        · cases he
          exact ⟨hkept₂, .inr ⟨e, rfl, hexc, by simpa [hu₁] using hbal⟩⟩
    · cases he
  · intro tr₁ e m₁ h₁
    obtain ⟨hkept, ⟨connection, hret, -⟩ | ⟨e', he, hexc, hbal⟩⟩ := h₁
    · cases hret
    · cases he
      exact ⟨hkept, .inr ⟨e, rfl, hexc, hbal⟩⟩

end Channel

section Relay

theorem relayRemote_idle (channel : InteractiveSshChannel) (maxBytes : ℕ) (ready : Bool) :
    Idle (relayRemote channel portTerminal maxBytes ready) := by
  cases ready with
  | false => exact idle_pure false
  | true =>
    refine (idle_ask fun r => rfl).bind fun data => Idle.ite (idle_pure true) ?_
    exact (idle_ask fun r => rfl).bind fun _ => idle_pure false

theorem relayLocal_idle (channel : InteractiveSshChannel) (maxBytes : ℕ) (ready : Bool) :
    Idle (relayLocal channel portTerminal maxBytes ready) := by
  cases ready with
  | false => exact idle_pure false
  | true =>
    refine (idle_ask fun r => rfl).bind fun data => Idle.ite (idle_pure true) ?_
    exact (idle_ask fun r => rfl).bind fun _ => idle_pure false

theorem isClosed_idle (channel : InteractiveSshChannel) : Idle channel.isClosed := by
  intro m
  refine (Prog.ensuresWhen_memory_bind _ m _).mpr ?_
  cases m.channelClosed with
  | true => exact idle_pure true m
  | false => exact idle_ask (fun r => rfl) m

/-- The relay loop releases nothing itself, however long it runs. -/
theorem relayLoop_idle (channel : InteractiveSshChannel) (deadline : ℚ) (maxBytes fuel : ℕ) :
    Idle (relayLoop channel portTerminal deadline maxBytes fuel) := by
  induction fuel with
  | zero =>
    intro m
    exact (Prog.ensuresWhen_diverge m _).mpr trivial
  | succ fuel ih =>
    refine (isClosed_idle channel).bind fun closed => ?_
    cases closed with
    | true => exact idle_pure _
    | false =>
      refine (idle_ask fun r => rfl).bind fun now => Idle.ite (idle_pure _) ?_
      refine (idle_ask fun r => rfl).bind fun readable => ?_
      refine (idle_ask fun r => rfl).bind fun later => Idle.ite (idle_pure _) ?_
      refine (relayRemote_idle channel maxBytes _).bind fun ended => ?_
      cases ended with
      | true => exact idle_pure _
      | false =>
        refine (relayLocal_idle channel maxBytes _).bind fun ended => ?_
        cases ended with
        | true => exact idle_pure _
        | false => exact ih

theorem closeChannel_ensures (channel : InteractiveSshChannel) {m : Memory}
    (hm : m.channelClosed = false) :
    CalmlyEnsures channel.close m fun tr o m' => m' = { m with channelClosed := true } ∧
      Ordinary o ∧ ∃ a, uses tr = [.closed (.channel channel.channel) a] ∧
        (o = .ret () → a = true) := by
  refine (Prog.ensuresWhen_memory_bind _ m _).mpr ?_
  rw [hm]
  refine (Prog.ensuresWhen_modify_bind _ _ m _).mpr ?_
  refine (close_ensures (c := .closeChannel channel.channel) _ fun r => rfl).mono ?_
  intro tr o m' h
  obtain ⟨hm', ho, a, hu, ha⟩ := h
  exact ⟨hm', ho, a, hu, ha ()⟩

/-- A relay either never reached its loop, or closed the channel once. -/
def Relayed {α : Type} (channel : Handle) (m : Memory) (tr : List PamEvent) (o : PamOutcome α)
    (m' : Memory) : Prop :=
  Ordinary o ∧ ((m' = m ∧ uses tr = [] ∧ ∃ e, o = .raise e) ∨
    (m' = { m with channelClosed := true } ∧ ∃ a, uses tr = [.closed (.channel channel) a] ∧
      ∀ r, o = .ret r → a = true))

theorem relayTerminal_ensures (fuel : ℕ) (channel : InteractiveSshChannel) (maxDuration : ℤ)
    {m : Memory} (hm : m.channelClosed = false) :
    CalmlyEnsures (relayTerminal fuel channel portTerminal maxDuration) m
      (Relayed channel.channel m) := by
  unfold relayTerminal
  split
  · refine (Prog.ensuresWhen_raise (S := pamSignature) _ _ _).mpr
      ⟨?_, .inl ⟨rfl, rfl, _, rfl⟩⟩
    rintro e ⟨⟩
    rfl
  · refine (idle_ask (c := .monotonic) (fun r => rfl) m).bind ?_ ?_
    · intro tr now m₁ h₁
      obtain ⟨rfl, hu₁, -⟩ := h₁
      have hloop (deadline : ℚ) : Idle (exceptException
          (relayLoop channel portTerminal deadline 32768 fuel)
          fun _ => throw (raised .sshChannelError (py "interactive terminal relay failed"))) :=
        (relayLoop_idle channel deadline 32768 fuel).exceptWhere fun _ => idle_throw rfl
      refine (hloop _ m₁).tryFinally ?_
      intro tr' o m₂ h₂
      obtain ⟨rfl, hu₂, ho⟩ := h₂
      refine (closeChannel_ensures channel hm).mono ?_
      intro tr'' o' m₃ h₃
      obtain ⟨rfl, ho', a, hu₃, ha⟩ := h₃
      constructor
      · intro hret
        exact ⟨ho, .inr ⟨rfl, a, by simp [hu₁, hu₂, hu₃], fun r _ => ha hret⟩⟩
      · intro e he
        refine ⟨by simpa [Ordinary] using ho' e he, .inr ⟨rfl, a, by simp [hu₁, hu₂, hu₃], ?_⟩⟩
        simp
    · intro tr e m₁ h₁
      obtain ⟨rfl, hu, ho⟩ := h₁
      exact ⟨by simpa [Ordinary] using ho, .inl ⟨rfl, hu, e, rfl⟩⟩

theorem relay_ensures (fuel : ℕ) (session : ParamikoBrokeredSession) (maxDuration : ℤ) {m : Memory}
    (hb : m.brokeredClosed = false) (hm : m.channelClosed = false) :
    CalmlyEnsures (session.relay fuel portTerminal maxDuration) m
      (Relayed session.channel.channel m) := by
  refine (Prog.ensuresWhen_memory_bind _ m _).mpr ?_
  rw [hb]
  refine (relayTerminal_ensures fuel session.channel maxDuration hm).bind ?_ ?_
  · intro tr r m' h
    refine (Prog.ensuresWhen_pure _ _ _).mpr ⟨by simp [Ordinary], ?_⟩
    rcases h.2 with ⟨-, -, e, he⟩ | ⟨hm', a, hu, ha⟩
    · cases he
    · exact .inr ⟨hm', a, by simpa using hu, fun _ _ => ha r rfl⟩
  · intro tr e m' h
    refine ⟨by simpa [Ordinary] using h.1, ?_⟩
    rcases h.2 with ⟨hm', hu, -⟩ | ⟨hm', a, hu, -⟩
    · exact .inl ⟨hm', hu, e, rfl⟩
    · exact .inr ⟨hm', a, hu, by simp⟩

/-- Closing a brokered session releases what its relay has not released. -/
theorem closeSession_ensures (session : ParamikoBrokeredSession) {m : Memory}
    (hb : m.brokeredClosed = false) (hc : m.connectionClosed = false) :
    CalmlyEnsures session.close m fun tr o m' => Kept m m' ∧ Ordinary o ∧ ∃ a b c, uses tr =
      (if m.channelClosed then [] else [.closed (.channel session.channel.channel) a]) ++
        [.closed (.transport session.connection.transport) b,
          .closed (.socket session.connection.socket) c] ∧
      (o = .ret () → (m.channelClosed = true ∨ a = true) ∧ b = true ∧ c = true) := by
  refine (Prog.ensuresWhen_memory_bind _ m _).mpr ?_
  rw [hb]
  refine (Prog.ensuresWhen_modify_bind _ _ m _).mpr ?_
  have hchannel : CalmlyEnsures session.channel.close { m with brokeredClosed := true }
      fun tr o m' => Kept m m' ∧ m'.connectionClosed = false ∧ Ordinary o ∧ ∃ a, uses tr =
        (if m.channelClosed then [] else [.closed (.channel session.channel.channel) a]) ∧
        (o = .ret () → m.channelClosed = true ∨ a = true) := by
    by_cases hch : m.channelClosed = true
    · refine (Prog.ensuresWhen_memory_bind _ _ _).mpr ?_
      simp only [hch, if_true]
      refine (Prog.ensuresWhen_pure _ _ _).mpr ⟨⟨rfl, rfl⟩, hc, by simp [Ordinary], true, rfl, ?_⟩
      simp
    · rw [Bool.not_eq_true] at hch
      refine (closeChannel_ensures session.channel (m := { m with brokeredClosed := true })
        hch).mono ?_
      intro tr o m' h
      obtain ⟨rfl, ho, a, hu, ha⟩ := h
      exact ⟨⟨rfl, rfl⟩, hc, ho, a, by simpa [hch] using hu, fun hret => .inr (ha hret)⟩
  refine hchannel.tryFinally ?_
  intro tr o m₁ h₁
  obtain ⟨hkept, hco, ho, a, hu, ha⟩ := h₁
  refine (closeConnection_ensures session.connection hco).mono ?_
  intro tr' o' m₂ h₂
  obtain ⟨hkept₂, ho', b, c, hu', hbc⟩ := h₂
  constructor
  · intro hret
    exact ⟨hkept₂.trans hkept, ho, a, b, c, by simp [hu, hu'], fun h => ⟨ha h, hbc hret⟩⟩
  · intro e he
    exact ⟨hkept₂.trans hkept, by simpa [Ordinary] using ho' e he, a, b, c, by simp [hu, hu'],
      by simp⟩

end Relay

section Service

/-- The session record of the run, if there is one, is not closed. -/
def Unclosed (m : Memory) : Prop := ∀ s, m.session = some s → s.status ≠ .closed

/-- What the audit steps of a session may do to the memory. -/
def AuditStep (m m' : Memory) : Prop :=
  (Unclosed m → Unclosed m') ∧ m'.closeSucceeded = m.closeSucceeded ∧
    m'.brokeredClosed = m.brokeredClosed ∧ m'.channelClosed = m.channelClosed ∧
    m'.connectionClosed = m.connectionClosed

theorem auditStep_refl (m : Memory) : AuditStep m m := ⟨id, rfl, rfl, rfl, rfl⟩

theorem AuditStep.trans (m₁ m₂ m₃ : Memory) (h : AuditStep m₁ m₂) (h' : AuditStep m₂ m₃) :
    AuditStep m₁ m₃ :=
  ⟨h'.1 ∘ h.1, h'.2.1.trans h.2.1, h'.2.2.1.trans h.2.2.1, h'.2.2.2.1.trans h.2.2.2.1,
    h'.2.2.2.2.trans h.2.2.2.2⟩

abbrev Stepwise {α : Type} (p : Pam α) : Prop := Prog.Keeps (S := pamSignature) AuditStep p

theorem stepwise_ask (c : PamCall) : Stepwise (ask c) :=
  Prog.Keeps.perform (S := pamSignature) auditStep_refl c

theorem stepwise_lift {α : Type} (r : Except PyExn α) : Stepwise (lift r) := by
  cases r with
  | ok a => exact Prog.Keeps.ret auditStep_refl a
  | error e => exact Prog.Keeps.raise (S := pamSignature) auditStep_refl e

theorem currentSession_stepwise : Stepwise currentSession := by
  refine Prog.Keeps.bind AuditStep.trans (Prog.Keeps.memory auditStep_refl) fun m => ?_
  cases m.session with
  | none => exact Prog.Keeps.raise (S := pamSignature) auditStep_refl _
  | some s => exact Prog.Keeps.ret auditStep_refl s

theorem appendEvent_stepwise (request : AccessRequest) (eventType : AuditEventType)
    (sessionId : Option PyStr) (result : PyStr) (reasonCode actorUserId : Option PyStr)
    (timestamp : Option DateTimes.DateTime) : Stepwise
      (appendEvent request eventType sessionId result reasonCode actorUserId timestamp) := by
  refine Prog.Keeps.bind AuditStep.trans (stepwise_ask .newId) fun id =>
    Prog.Keeps.bind AuditStep.trans ?_ fun t => ?_
  · cases timestamp with
    | none => exact stepwise_ask .now
    | some t => exact Prog.Keeps.ret auditStep_refl t
  · exact Prog.Keeps.bind AuditStep.trans (stepwise_lift _) fun ev => stepwise_ask (.append ev)

theorem terminalTimestamp_stepwise : Stepwise terminalTimestamp :=
  Prog.Keeps.bind AuditStep.trans (stepwise_ask .now) fun _ =>
    Prog.Keeps.bind AuditStep.trans currentSession_stepwise fun _ => stepwise_lift _

/-- A mutator that cannot close the session. -/
theorem transition_stepwise {mutator : Session → Except PyExn Session}
    (h : ∀ s t, mutator s = .ok t → t.status ≠ .closed) : Stepwise (transition mutator) := by
  intro m
  cases hm : m.session with
  | none =>
    simp only [transition, currentSession, Prog.ensures_bind', Prog.Then, Prog.ensures_memory, hm,
      ensures_throw]
    exact auditStep_refl m
  | some s =>
    refine (AccessAuditTrail.transition_ensures hm mutator).mono fun tr o m' hp => ?_
    rcases hp.2 with ⟨t, ht, -, rfl⟩ | ⟨e, -, -, rfl⟩
    · refine ⟨fun _ s' hs' => ?_, rfl, rfl, rfl, rfl⟩
      cases hs'
      exact h s t ht
    · exact auditStep_refl m'

theorem markFailed_not_closed (endedAt : DateTimes.DateTime) (reason : PyStr) (s t : Session)
    (h : s.markFailed endedAt reason = .ok t) : t.status ≠ .closed := by
  obtain ⟨-, -, rfl⟩ := (Session.markFailed_ok_iff s t endedAt reason).mp h
  simp

theorem markActive_not_closed (s t : Session) (h : s.markActive = .ok t) : t.status ≠ .closed := by
  obtain ⟨-, rfl⟩ := (Session.markActive_ok_iff s t).mp h
  simp

theorem failSession_stepwise (request : AccessRequest) (reason : PyStr) :
    Stepwise (failSession request reason) := by
  refine Prog.Keeps.bind AuditStep.trans terminalTimestamp_stepwise fun t => ?_
  refine Prog.Keeps.bind AuditStep.trans
    (transition_stepwise fun s s' => markFailed_not_closed t reason s s') fun _ => ?_
  exact Prog.Keeps.bind AuditStep.trans currentSession_stepwise fun _ =>
    appendEvent_stepwise _ _ _ _ _ _ _

theorem auditPersistenceFailed_stepwise {α : Type} (e : PyExn) :
    Stepwise (auditPersistenceFailed e : Pam α) := by
  refine Prog.Keeps.bind AuditStep.trans terminalTimestamp_stepwise fun t => ?_
  refine Prog.Keeps.bind AuditStep.trans
    (transition_stepwise fun s s' => markFailed_not_closed t _ s s') fun _ => ?_
  exact Prog.Keeps.raise (S := pamSignature) auditStep_refl e

theorem recorded_stepwise {p : Pam Unit} (hp : Stepwise p) :
    Stepwise (exceptException p auditPersistenceFailed) := by
  refine Prog.Keeps.tryExcept AuditStep.trans hp fun e => ?_
  cases PyExn.isException e with
  | true => exact auditPersistenceFailed_stepwise e
  | false => exact Prog.Keeps.raise (S := pamSignature) auditStep_refl e

theorem appendActive_stepwise (request : AccessRequest) : Stepwise (appendActive request) := by
  refine recorded_stepwise (Prog.Keeps.bind AuditStep.trans currentSession_stepwise fun s => ?_)
  exact appendEvent_stepwise _ _ _ _ _ _ _

theorem appendOpening_stepwise (request : AccessRequest) (decision : AccessDecision) :
    Stepwise (appendOpening request decision) := by
  refine recorded_stepwise (Prog.Keeps.bind AuditStep.trans currentSession_stepwise fun s => ?_)
  exact Prog.Keeps.bind AuditStep.trans (appendEvent_stepwise _ _ _ _ _ _ _) fun _ =>
    appendEvent_stepwise _ _ _ _ _ _ _

theorem Within.no_uses {α : Type} {p : Pam α} (hp : Within [.audit] p) (m : Memory) :
    p.Ensures m fun tr _ _ => uses tr = [] := by
  refine (Prog.OnlyCalls.ensures hp m).mono fun tr _ _ h => ?_
  refine List.filterMap_eq_nil_iff.mpr fun ev hev => ?_
  have hkind := h ev hev
  obtain ⟨c, r⟩ := ev
  cases c <;> first | rfl | simp [kind] at hkind

/-- An audit step of a run: it follows `AuditStep` and touches no resource. -/
theorem audit_ensures {α : Type} {p : Pam α} (hp : Within [.audit] p) (hs : Stepwise p)
    (m : Memory) : CalmlyEnsures p m fun tr _ m' => uses tr = [] ∧ AuditStep m m' :=
  ((Within.no_uses hp m).and (hs m)).when

variable (connector : ParamikoSshConnector) (fuel : ℕ) (d : ℤ) (hd : 0 < d)

/-- No object of the session was closed yet. -/
structure AllOpen (m : Memory) : Prop where
  brokered : m.brokeredClosed = false
  channel : m.channelClosed = false
  connection : m.connectionClosed = false

theorem AuditStep.allOpen {m m' : Memory} (h : AuditStep m m') (ho : AllOpen m) : AllOpen m' :=
  ⟨h.2.2.1.trans ho.brokered, h.2.2.2.1.trans ho.channel, h.2.2.2.2.trans ho.connection⟩

theorem Kept.unclosed {m m' : Memory} (h : Kept m m') (hu : Unclosed m) : Unclosed m' :=
  fun s hs => hu s (h.1 ▸ hs)

theorem relayOutcome_ensures (session : ParamikoBrokeredSession) {m : Memory} (ho : AllOpen m) :
    CalmlyEnsures ((sshService connector fuel d hd).relayOutcome session portTerminal) m
      fun tr o m' => (m' = m ∧ uses tr = [] ∧ ∀ outcome, o ≠ .ret (some outcome)) ∨
        (m' = { m with channelClosed := true } ∧ ∃ a,
          uses tr = [.closed (.channel session.channel.channel) a] ∧
            ∀ outcome, o = .ret (some outcome) → a = true) := by
  refine calmly_exceptException (P := Relayed session.channel.channel m) ?_ ?_ ?_
  · refine (relay_ensures fuel session d ho.brokered ho.channel).bind ?_ ?_
    · intro tr r m' h
      have hclosed : ∃ a, m' = { m with channelClosed := true } ∧
          uses tr = [.closed (.channel session.channel.channel) a] ∧ a = true := by
        rcases h.2 with ⟨-, -, e, he⟩ | ⟨hm', a, hu, ha⟩
        · cases he
        · exact ⟨a, hm', hu, ha r rfl⟩
      obtain ⟨a, hm', hu, ha⟩ := hclosed
      cases r with
      | none =>
        refine (Prog.ensuresWhen_raise (S := pamSignature) _ _ _).mpr
          ⟨?_, .inr ⟨hm', a, by simpa using hu, by simp⟩⟩
        rintro e ⟨⟩
        rfl
      | some outcome =>
        exact (Prog.ensuresWhen_pure _ _ _).mpr
          ⟨by simp [Ordinary], .inr ⟨hm', a, by simpa using hu, fun _ _ => ha⟩⟩
    · intro tr e m' h
      refine ⟨by simpa [Ordinary] using h.1, ?_⟩
      rcases h.2 with ⟨hm', hu, -⟩ | ⟨hm', a, hu, -⟩
      · exact .inl ⟨hm', hu, e, rfl⟩
      · exact .inr ⟨hm', a, hu, by simp⟩
  · intro tr r m' h
    rcases h.2 with ⟨-, -, e, he⟩ | ⟨hm', a, hu, ha⟩
    · cases he
    · exact .inr ⟨hm', a, hu, fun _ _ => ha r rfl⟩
  · intro tr e m' h
    refine ⟨h.1 e rfl, (Prog.ensuresWhen_pure _ _ _).mpr ?_⟩
    rcases h.2 with ⟨hm', hu, -⟩ | ⟨hm', a, hu, -⟩
    · exact .inl ⟨hm', by simpa using hu, by simp⟩
    · exact .inr ⟨hm', a, by simpa using hu, by simp⟩

/-- The three close calls of a brokered session. -/
def closing (session : ParamikoBrokeredSession) (a b c : Bool) : List Use :=
  [.closed (.channel session.channel.channel) a,
    .closed (.transport session.connection.transport) b,
    .closed (.socket session.connection.socket) c]

theorem closeBrokered_ensures (session : ParamikoBrokeredSession) {m : Memory}
    (hb : m.brokeredClosed = false) (hc : m.connectionClosed = false)
    (hs : m.closeSucceeded = false) :
    CalmlyEnsures ((sshService connector fuel d hd).closeBrokered session) m fun tr o m' =>
      m'.session = m.session ∧ (∃ u, o = .ret u) ∧ ∃ a b c, uses tr =
        (if m.channelClosed then [] else [.closed (.channel session.channel.channel) a]) ++
          [.closed (.transport session.connection.transport) b,
            .closed (.socket session.connection.socket) c] ∧
        (m'.closeSucceeded = true → (m.channelClosed = true ∨ a = true) ∧ b = true ∧ c = true) := by
  have hclose := closeSession_ensures session hb hc
  refine calmly_exceptException (P := fun tr o m' => m'.session = m.session ∧ Ordinary o ∧
    (∀ e, o = .raise e → m'.closeSucceeded = false) ∧ ∃ a b c, uses tr =
        (if m.channelClosed then [] else [.closed (.channel session.channel.channel) a]) ++
          [.closed (.transport session.connection.transport) b,
            .closed (.socket session.connection.socket) c] ∧
        ((∃ u, o = .ret u) → (m.channelClosed = true ∨ a = true) ∧ b = true ∧ c = true)) ?_ ?_ ?_
  · refine hclose.bind ?_ ?_
    · intro tr _ m' h
      obtain ⟨hkept, -, a, b, c, hu, hok⟩ := h
      refine (Prog.ensuresWhen_modify _ _ _).mpr ⟨hkept.1, by simp [Ordinary], by simp, ?_⟩
      exact ⟨a, b, c, by simpa using hu, fun _ => hok rfl⟩
    · intro tr e m' h
      obtain ⟨hkept, ho, a, b, c, hu, -⟩ := h
      exact ⟨hkept.1, by simpa [Ordinary] using ho, fun _ _ => hkept.2.trans hs, a, b, c, hu,
        by simp⟩
  · intro tr u m' h
    obtain ⟨hm', -, -, a, b, c, hu, hok⟩ := h
    exact ⟨hm', ⟨u, rfl⟩, a, b, c, hu, fun _ => hok ⟨u, rfl⟩⟩
  · intro tr e m' h
    obtain ⟨hm', ho, hnot, a, b, c, hu, -⟩ := h
    refine ⟨ho e rfl, (Prog.ensuresWhen_pure _ _ _).mpr ⟨hm', ⟨(), rfl⟩, a, b, c, ?_, ?_⟩⟩
    · simpa using hu
    · simp [hnot e rfl]

/-- Whatever happens in the relay phase, it closes the channel, the transport and
the socket once. -/
theorem relaySession_ensures (request : AccessRequest) (session : ParamikoBrokeredSession)
    {m : Memory} (ho : AllOpen m) (hu : Unclosed m) (hs : m.closeSucceeded = false) :
    CalmlyEnsures ((sshService connector fuel d hd).relaySession request session portTerminal) m
      fun tr o m' => Unclosed m' ∧ ∃ a b c, uses tr = closing session a b c ∧
        ∀ outcome, o = .ret (some outcome) → m'.closeSucceeded = true →
          a = true ∧ b = true ∧ c = true := by
  have hbody : CalmlyEnsures (do
      transition (·.markActive)
      appendActive request
      (sshService connector fuel d hd).relayOutcome session portTerminal) m fun tr o m' =>
        Unclosed m' ∧ m'.closeSucceeded = false ∧ m'.brokeredClosed = false ∧
        m'.connectionClosed = false ∧ ∃ a, uses tr =
          (if m'.channelClosed then [.closed (.channel session.channel.channel) a] else []) ∧
          ∀ outcome, o = .ret (some outcome) → m'.channelClosed = true ∧ a = true := by
    have hstep {m' : Memory} {α : Type} {tr : List PamEvent} (h : uses tr = [] ∧ AuditStep m m')
        (e : PyExn) : Unclosed m' ∧ m'.closeSucceeded = false ∧ m'.brokeredClosed = false ∧
        m'.connectionClosed = false ∧ ∃ a, uses tr =
          (if m'.channelClosed then [.closed (.channel session.channel.channel) a] else []) ∧
          ∀ outcome : α, (Outcome.raise e : PamOutcome (Option α)) = .ret (some outcome) →
            m'.channelClosed = true ∧ a = true := by
      have hopen := h.2.allOpen ho
      exact ⟨h.2.1 hu, h.2.2.1.trans hs, hopen.brokered, hopen.connection, true,
        by simp [h.1, hopen.channel], by simp⟩
    refine (audit_ensures (transition_within _)
      (transition_stepwise fun s t => markActive_not_closed s t) m).bind ?_ ?_
    · intro tr _ m₁ h₁
      refine (audit_ensures (appendActive_within request) (appendActive_stepwise request) m₁).bind
        ?_ ?_
      · intro tr₂ _ m₂ h₂
        have hsteps := AuditStep.trans m m₁ m₂ h₁.2 h₂.2
        have hopen := hsteps.allOpen ho
        refine (relayOutcome_ensures connector fuel d hd session hopen).mono ?_
        intro tr₃ o m₃ h₃
        rcases h₃ with ⟨rfl, hu₃, hnot⟩ | ⟨rfl, a, hu₃, ha⟩
        · exact ⟨hsteps.1 hu, hsteps.2.1.trans hs, hopen.brokered, hopen.connection, true,
            by simp [h₁.1, h₂.1, hu₃, hopen.channel], fun r hr => absurd hr (hnot r)⟩
        · exact ⟨hsteps.1 hu, hsteps.2.1.trans hs, hopen.brokered, hopen.connection, a,
            by simp [h₁.1, h₂.1, hu₃], fun r hr => ⟨rfl, ha r hr⟩⟩
      · intro tr₂ e m₂ h₂
        exact hstep ⟨by simp [h₁.1, h₂.1], AuditStep.trans m m₁ m₂ h₁.2 h₂.2⟩ e
    · intro tr e m₁ h₁
      exact hstep h₁ e
  refine hbody.tryFinally ?_
  intro tr o m₁ h₁
  obtain ⟨hu₁, hs₁, hb₁, hc₁, a, huses, ha⟩ := h₁
  refine (closeBrokered_ensures connector fuel d hd session hb₁ hc₁ hs₁).mono ?_
  intro tr' o' m₂ h₂
  obtain ⟨hm₂, ⟨u, rfl⟩, a', b, c, huses', hok⟩ := h₂
  have hunclosed : Unclosed m₂ := fun s h => hu₁ s (hm₂ ▸ h)
  refine ⟨fun _ => ⟨hunclosed, ?_⟩, by simp⟩
  cases hch : m₁.channelClosed with
  | true =>
    refine ⟨a, b, c, by simp [huses, huses', hch, closing], fun outcome hr hclose => ?_⟩
    exact ⟨(ha outcome hr).2, (hok hclose).2⟩
  | false =>
    refine ⟨a', b, c, by simp [huses, huses', hch, closing], fun outcome hr _ => ?_⟩
    simp [hch] at ha
    exact absurd hr (ha outcome)

/-- Resources of a run: all released, and without a failure if the session closed. -/
structure Settled (us : List Use) (m' : Memory) : Prop where
  balanced : Balanced us
  closedNormally : ∀ s, m'.session = some s → s.status = .closed →
    ∀ resource ok, Use.closed resource ok ∈ us → ok = true

theorem settled_nil (m' : Memory) : Settled [] m' := ⟨balanced_nil, by simp⟩

theorem settled_of_unclosed {us : List Use} {m' : Memory} (h : Balanced us) (hu : Unclosed m') :
    Settled us m' :=
  ⟨h, fun s hs hclosed => absurd hclosed (hu s hs)⟩

theorem endSession_ensures (request : AccessRequest) (relayed : Option RelayOutcome) {m : Memory}
    (hu : Unclosed m) : CalmlyEnsures (endSession request relayed) m fun tr _ m' => uses tr = [] ∧
      (¬ Unclosed m' → m.closeSucceeded = true ∧ ∃ outcome, relayed = some outcome) := by
  have hfail (reason : PyStr) : CalmlyEnsures (failSession request reason) m fun tr _ m' =>
      uses tr = [] ∧
        (¬ Unclosed m' → m.closeSucceeded = true ∧ ∃ outcome, relayed = some outcome) := by
    refine (audit_ensures (terminate_within ..) (failSession_stepwise request reason) m).mono ?_
    exact fun tr o m' h => ⟨h.1, fun hnot => absurd (h.2.1 hu) hnot⟩
  cases relayed with
  | none => exact hfail _
  | some outcome =>
    refine (Prog.ensuresWhen_memory_bind _ m _).mpr ?_
    cases hs : m.closeSucceeded with
    | true =>
      refine (Prog.Ensures.when (Within.no_uses (terminate_within ..) m)).mono ?_
      exact fun tr o m' h => ⟨h, fun _ => ⟨rfl, outcome, rfl⟩⟩
    | false => simpa [hs] using hfail (py "broker_close_failed")

theorem returnSession_ensures (decision : AccessDecision) (m : Memory) :
    CalmlyEnsures (do return (⟨decision, some (← currentSession)⟩ : AccessResult)) m
      fun tr _ m' => uses tr = [] ∧ m' = m := by
  refine Prog.Ensures.when ?_
  cases hm : m.session <;>
    simp [currentSession, Prog.Then, hm]

theorem runBrokered_ensures (request : AccessRequest) (decision : AccessDecision)
    (session : ParamikoBrokeredSession) {m : Memory} (ho : AllOpen m) (hu : Unclosed m) :
    CalmlyEnsures ((sshService connector fuel d hd).runBrokered request decision session
      portTerminal) m fun tr _ m' => ∃ a b c, uses tr = closing session a b c ∧
        (¬ Unclosed m' → a = true ∧ b = true ∧ c = true) := by
  refine (Prog.ensuresWhen_modify_bind _ _ m _).mpr ?_
  refine (relaySession_ensures connector fuel d hd request session
    (m := { m with closeSucceeded := false }) ⟨ho.brokered, ho.channel, ho.connection⟩ hu rfl).bind
    ?_ ?_
  · intro tr relayed m₁ h₁
    obtain ⟨hu₁, a, b, c, huses, hok⟩ := h₁
    refine (endSession_ensures request relayed hu₁).bind ?_ ?_
    · intro tr₂ _ m₂ h₂
      have hend : ¬ Unclosed m₂ → a = true ∧ b = true ∧ c = true := by
        intro hnot
        obtain ⟨hclose, outcome, rfl⟩ := h₂.2 hnot
        exact hok outcome rfl hclose
      refine (returnSession_ensures decision m₂).mono fun tr₃ o m₃ h₃ => ?_
      obtain ⟨hu₃, rfl⟩ := h₃
      exact ⟨a, b, c, by simp [huses, h₂.1, hu₃], hend⟩
    · intro tr₂ e m₂ h₂
      refine ⟨a, b, c, by simp [huses, h₂.1], fun hnot => ?_⟩
      obtain ⟨hclose, outcome, rfl⟩ := h₂.2 hnot
      exact hok outcome rfl hclose
  · intro tr e m₁ h₁
    obtain ⟨hu₁, a, b, c, huses, -⟩ := h₁
    exact ⟨a, b, c, huses, fun hnot => absurd hu₁ hnot⟩

theorem Unclosed.of_opening {m : Memory} {s : Session} (hm : m.session = some s)
    (hs : s.status = .opening) : Unclosed m := by
  intro s' hs'
  rw [hm] at hs'
  cases hs'
  simp [hs]

/-- The three resources of a brokered session. -/
def opening (session : ParamikoBrokeredSession) : List Use :=
  [.opened (.socket session.connection.socket), .opened (.transport session.connection.transport),
    .opened (.channel session.channel.channel)]

theorem openBrokered_ensures (request : AccessRequest) (target : Target)
    (account : PrivilegedAccount) (credential : BrokerCredential) {m : Memory} (hu : Unclosed m) :
    CalmlyEnsures ((sshService connector fuel d hd).openBrokered request target account credential)
      m fun tr o m' => Unclosed m' ∧
        ((∃ session, o = .ret (some session) ∧ AllOpen m' ∧ uses tr = opening session) ∨
          (o = .ret none ∨ ∃ e, o = .raise e) ∧ Balanced (uses tr)) := by
  refine calmly_exceptException (P := fun tr o m' => Unclosed m' ∧
    ((∃ session, o = .ret (some session) ∧ AllOpen m' ∧ uses tr = opening session) ∨
      ∃ e, o = .raise e ∧ PyExn.isException e = true ∧ Balanced (uses tr))) ?_ ?_ ?_
  · refine (openSession_ensures connector target account credential m).bind ?_ ?_
    · intro tr session m' h
      obtain ⟨hkept, ⟨session', hret, hb, hch, hco, huses⟩ | ⟨e, he, -⟩⟩ := h
      · cases hret
        refine (Prog.ensuresWhen_pure _ _ _).mpr ⟨hkept.unclosed hu, .inl ⟨session, rfl, ?_, ?_⟩⟩
        · exact ⟨hb, hch, hco⟩
        · simpa [opening] using huses
      · cases he
    · intro tr e m' h
      obtain ⟨hkept, ⟨session, hret, -⟩ | ⟨e', he, hexc, hbal⟩⟩ := h
      · cases hret
      · cases he
        exact ⟨hkept.unclosed hu, .inr ⟨e, rfl, hexc, hbal⟩⟩
  · intro tr r m' h
    obtain ⟨hu', hopened | ⟨e, he, -⟩⟩ := h
    · exact ⟨hu', .inl hopened⟩
    · cases he
  · intro tr e m' h
    obtain ⟨hu', ⟨session, hret, -⟩ | ⟨e', he, hexc, hbal⟩⟩ := h
    · cases hret
    · cases he
      refine ⟨hexc, (audit_ensures (terminate_within ..) (failSession_stepwise request
        (py "broker_open_failed")) m').bind ?_ ?_⟩
      · intro tr' _ m'' h'
        exact (Prog.ensuresWhen_pure _ _ _).mpr
          ⟨h'.2.1 hu', .inr ⟨.inl rfl, by simpa [h'.1] using hbal⟩⟩
      · intro tr' e' m'' h'
        exact ⟨h'.2.1 hu', .inr ⟨.inr ⟨e', rfl⟩, by simpa [h'.1] using hbal⟩⟩

theorem runSession_ensures (request : AccessRequest) (decision : AccessDecision) (target : Target)
    (account : PrivilegedAccount) (credential : BrokerCredential) {m : Memory} (hu : Unclosed m) :
    CalmlyEnsures ((sshService connector fuel d hd).runSession request decision target account
      credential portTerminal) m fun tr _ m' => Settled (uses tr) m' := by
  refine (audit_ensures (appendOpening_within request decision)
    (appendOpening_stepwise request decision) m).bind ?_ ?_
  · intro tr₁ _ m₁ h₁
    refine (openBrokered_ensures connector fuel d hd request target account credential
      (h₁.2.1 hu)).bind ?_ ?_
    · intro tr₂ brokered m₂ h₂
      obtain ⟨hu₂, ⟨session, hret, ho, huses₂⟩ | ⟨hret, hbal⟩⟩ := h₂
      · cases hret
        refine (runBrokered_ensures connector fuel d hd request decision session ho hu₂).mono ?_
        intro tr₃ o m₃ h₃
        obtain ⟨a, b, c, huses, hok⟩ := h₃
        have hall : uses (tr₁ ++ (tr₂ ++ tr₃)) = opening session ++ closing session a b c := by
          simp [h₁.1, huses₂, huses]
        rw [hall]
        refine ⟨balanced_session _ _ _ a b c, fun s hs hclosed resource ok hmem => ?_⟩
        obtain ⟨rfl, rfl, rfl⟩ := hok fun hu₃ => hu₃ s hs hclosed
        simp [opening, closing] at hmem
        tauto
      · rcases hret with hret | ⟨e, he⟩
        · cases hret
          refine (returnSession_ensures decision m₂).mono fun tr₃ o m₃ h₃ => ?_
          obtain ⟨hu₃, rfl⟩ := h₃
          exact settled_of_unclosed (by simpa [h₁.1, hu₃] using hbal) hu₂
        · cases he
    · intro tr₂ e m₂ h₂
      obtain ⟨hu₂, ⟨session, hret, -⟩ | ⟨-, hbal⟩⟩ := h₂
      · cases hret
      · exact settled_of_unclosed (by simpa [h₁.1] using hbal) hu₂
  · intro tr e m₁ h₁
    rw [h₁.1]
    exact settled_nil m₁

theorem Settled.after {tr tr' : List PamEvent} {m' : Memory} (h : Settled (uses tr') m')
    (hu : uses tr = []) : Settled (uses (tr ++ tr')) m' := by
  simpa [hu] using h

/-- A call that touches no resource leaves the rest to what follows. -/
theorem asked_settled {c : PamCall} {f : c.Answer → Pam AccessResult} {m : Memory}
    (hc : ∀ r, useOne ⟨c, r⟩ = none)
    (hf : ∀ a, CalmlyEnsures (f a) m fun tr _ m' => Settled (uses tr) m') :
    CalmlyEnsures (ask c >>= f) m fun tr _ m' => Settled (uses tr) m' := by
  refine (idle_ask hc m).bind ?_ ?_
  · intro tr a m' h
    obtain ⟨rfl, hu, -⟩ := h
    exact (hf a).mono fun tr' o m'' h' => h'.after hu
  · intro tr e m' h
    rw [h.2.1]
    exact settled_nil m'

theorem deny_settled (request : AccessRequest) (decision : AccessDecision)
    (actorUserId : Option PyStr) (m : Memory) :
    CalmlyEnsures (deny request decision actorUserId) m fun tr _ m' => Settled (uses tr) m' := by
  refine ((Within.no_uses (deny_within request decision actorUserId) m).when).mono ?_
  intro tr o m' h
  rw [h]
  exact settled_nil m'

theorem startSession_ensures (request : AccessRequest) (decision : AccessDecision)
    (target : Target) (account : PrivilegedAccount) (credential : BrokerCredential) (m : Memory) :
    CalmlyEnsures ((sshService connector fuel d hd).startSession request decision target account
      credential portTerminal) m fun tr _ m' => Settled (uses tr) m' := by
  refine asked_settled (c := .newId) (fun r => rfl) fun id => ?_
  refine asked_settled (c := .now) (fun r => rfl) fun startedAt => ?_
  cases hinit : Session.postInit
    { id := id, requestId := request.id, userId := request.userId, targetId := target.id,
      accountId := account.id, status := .opening, startedAt := startedAt, endedAt := none,
      closeReason := none } with
  | error e =>
    exact (Prog.ensuresWhen_raise (S := pamSignature) e m _).mpr (settled_nil m)
  | ok session =>
    obtain ⟨rfl, -⟩ := Session.postInit_opening hinit rfl
    refine (Prog.ensuresWhen_modify_bind _ _ m _).mpr ?_
    exact runSession_ensures connector fuel d hd request decision target account credential
      (Unclosed.of_opening rfl rfl)

theorem checkAccount_ensures (request : AccessRequest) (decision : AccessDecision)
    (target : Target) (m : Memory) :
    CalmlyEnsures ((sshService connector fuel d hd).checkAccount request decision target
      portTerminal) m fun tr _ m' => Settled (uses tr) m' := by
  refine asked_settled (fun r => rfl) fun account => ?_
  cases account with
  | none => exact deny_settled request _ none m
  | some account =>
    by_cases henabled : account.enabled = true
    · by_cases htarget : account.targetId = target.id
      · simp only [henabled, htarget, Bool.not_true, Bool.false_eq_true, ne_eq, not_true_eq_false,
          if_false]
        refine asked_settled (fun r => rfl) fun credential => ?_
        cases credential with
        | none => exact deny_settled request _ none m
        | some credential =>
          exact startSession_ensures connector fuel d hd request decision target account
            credential m
      · simpa [henabled, htarget, denyWithReason] using deny_settled request _ none m
    · simpa [henabled, denyWithReason] using deny_settled request _ none m

theorem checkTarget_ensures (request : AccessRequest) (decision : AccessDecision) (m : Memory) :
    CalmlyEnsures ((sshService connector fuel d hd).checkTarget request decision portTerminal) m
      fun tr _ m' => Settled (uses tr) m' := by
  refine asked_settled (fun r => rfl) fun target => ?_
  cases target with
  | none => exact deny_settled request _ none m
  | some target =>
    by_cases henabled : target.enabled = true
    · simpa [henabled] using checkAccount_ensures connector fuel d hd request decision target m
    · simpa [henabled, denyWithReason] using deny_settled request _ none m

/-- In every run without interrupts each resource is closed exactly once, and a
session that ends closed had no failed close. -/
theorem handle_settles (principal : AuthenticatedPrincipal) (request : AccessRequest) (m : Memory)
    {tr : List PamEvent} {o : PamOutcome AccessResult} {m' : Memory}
    (hrun : ((sshService connector fuel d hd).handle principal request portTerminal).Run m tr o m')
    (hcalm : ∀ ev ∈ tr, Calm ev) : Settled (uses tr) m' := by
  suffices hhandle : CalmlyEnsures ((sshService connector fuel d hd).handle principal request
      portTerminal) m fun tr _ m' => Settled (uses tr) m' from hhandle tr o m' hrun hcalm
  by_cases hid : principal.userId = request.userId
  · simp only [AccessService.handle, hid, ne_eq, not_true_eq_false, if_false,
      PolicyEvaluation.evaluate, bind_assoc, pure_bind]
    refine asked_settled (c := .findMatching _ _ _) (fun r => rfl) fun policies => ?_
    by_cases hallow : (PolicyEvaluation.decisionOf policies).effect = .allow
    · simpa [hallow] using checkTarget_ensures connector fuel d hd request _ m
    · simpa [hallow] using deny_settled request _ none m
  · simpa [AccessService.handle, hid] using deny_settled request _ _ m

end Service

theorem handle_settles_example : ∃ tr o m', sshRun = some (tr, o, m') ∧
    uses tr = [.opened (.socket 1), .opened (.transport 2), .opened (.channel 4),
      .closed (.channel 4) true, .closed (.transport 2) true, .closed (.socket 1) true] ∧
    Settled (uses tr) m' := by
  obtain ⟨tr, o, m', hexec, huses, hcalm⟩ : ∃ tr o m', sshRun = some (tr, o, m') ∧
      uses tr = [.opened (.socket 1), .opened (.transport 2), .opened (.channel 4),
        .closed (.channel 4) true, .closed (.transport 2) true, .closed (.socket 1) true] ∧
      ∀ ev ∈ tr, Calm ev := ⟨_, _, _, rfl, by decide, by simp [Calm, calmReply, sshWorld]⟩
  exact ⟨tr, o, m', hexec, huses, handle_settles sshConnector 1 1 (by decide) _ _ _
    (Prog.run_exec _ _ _ _ _ _ _ hexec) hcalm⟩

end PamMvp.ResourceRelease
