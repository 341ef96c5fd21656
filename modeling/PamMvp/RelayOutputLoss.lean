import PamMvp.BrokeredSessions
import PamMvp.AccessAuditTrail

/-!
# Remote output at the end of a session

A second thread fills the receive buffer of a channel and marks it closed while
the relay runs. An interleaving lists the moves of that thread and the answered
calls of the relay in one order, and `replay` says which interleavings the
channel allows. Output is complete exactly when the relay never sees a closed
channel whose buffer still holds bytes.
-/
namespace PamMvp.RelayOutputLoss
open InteractionPrograms PythonText DomainModel PamCalls SshConnecting BrokeredSessions

/-- What the remote end does to a channel. -/
inductive RemoteMove where
  | arrive (data : Bytes)
  | eof
  | close

structure RemoteChannel where
  buffer : Bytes
  ended : Bool
  closed : Bool

/-- Nothing arrives after the end of the stream or after the close message. -/
def remoteStep (s : RemoteChannel) : RemoteMove → Option RemoteChannel
  | .arrive data =>
    if s.ended || s.closed then none else some { s with buffer := s.buffer ++ data }
  | .eof => some { s with ended := true }
  | .close => some { s with closed := true }

/-- `recv` returns buffered bytes, and none only at the end of the stream. -/
def recvStep (s : RemoteChannel) (maxBytes : ℕ) (data : Bytes) : Option RemoteChannel :=
  if data = [] then if s.buffer = [] ∧ (s.ended || s.closed) then some s else none
  else if data <+: s.buffer ∧ data.length ≤ maxBytes then
    some { s with buffer := s.buffer.drop data.length }
  else none

def callStep (channel : Handle) (s : RemoteChannel) : PamEvent → Option RemoteChannel
  | ⟨.channelClosed c, .ok observed⟩ =>
    if c = channel ∧ observed ≠ s.closed then none else some s
  | ⟨.recv c maxBytes, .ok data⟩ => if c = channel then recvStep s maxBytes data else some s
  | _ => some s

abbrev Interleaving : Type := List (RemoteMove ⊕ PamEvent)

def step (channel : Handle) (s : RemoteChannel) : RemoteMove ⊕ PamEvent → Option RemoteChannel
  | .inl move => remoteStep s move
  | .inr ev => callStep channel s ev

/-- The channel after an interleaving; `none` if the channel does not allow it. -/
def replay (channel : Handle) (s : RemoteChannel) : Interleaving → Option RemoteChannel
  | [] => some s
  | x :: steps => (step channel s x).bind fun s' => replay channel s' steps

def arrivedOne : RemoteMove ⊕ PamEvent → Bytes
  | .inl (.arrive data) => data
  | _ => []

def receivedOne (channel : Handle) : PamEvent → Bytes
  | ⟨.recv c _, .ok data⟩ => if c = channel then data else []
  | _ => []

def writtenOne : PamEvent → Bytes
  | ⟨.writeOutput data, .ok _⟩ => data
  | _ => []

def received (channel : Handle) (tr : List PamEvent) : Bytes := tr.flatMap (receivedOne channel)

/-- The bytes that reached the terminal, in order. -/
def written (tr : List PamEvent) : Bytes := tr.flatMap writtenOne

/-- The bytes that the remote end put into the buffer, in order. -/
def delivered (s : RemoteChannel) (steps : Interleaving) : Bytes :=
  s.buffer ++ steps.flatMap arrivedOne

def callOf : RemoteMove ⊕ PamEvent → Option PamEvent
  | .inl _ => none
  | .inr ev => some ev

/-- The calls of an interleaving. -/
def callsOf (steps : Interleaving) : List PamEvent := steps.filterMap callOf

section Replay

variable {channel : Handle}

theorem replay_append (s : RemoteChannel) (steps steps' : Interleaving) :
    replay channel s (steps ++ steps') =
      (replay channel s steps).bind fun s' => replay channel s' steps' := by
  induction steps generalizing s with
  | nil => rfl
  | cons x steps ih =>
    simp only [List.cons_append, replay]
    cases step channel s x with
    | none => rfl
    | some s' => exact ih s'

theorem recvStep_conserves {s s' : RemoteChannel} {maxBytes : ℕ} {data : Bytes}
    (h : recvStep s maxBytes data = some s') : s.buffer = data ++ s'.buffer := by
  unfold recvStep at h
  split_ifs at h with hdata hend hprefix
  · cases h
    simp [hdata]
  · cases h
    obtain ⟨rest, hrest⟩ := hprefix.1
    simp [← hrest]

/-- One step moves bytes from the remote end to the buffer or from there to the caller. -/
theorem step_conserves {s s' : RemoteChannel} {x : RemoteMove ⊕ PamEvent}
    (h : step channel s x = some s') :
    s.buffer ++ arrivedOne x = (callOf x).toList.flatMap (receivedOne channel) ++ s'.buffer := by
  cases x with
  | inl move =>
    cases move with
    | arrive data =>
      simp only [step, remoteStep] at h
      split_ifs at h
      cases h
      simp [arrivedOne, callOf]
    | eof =>
      cases h
      simp [arrivedOne, callOf]
    | close =>
      cases h
      simp [arrivedOne, callOf]
  | inr ev =>
    obtain ⟨c, r⟩ := ev
    cases c with
    | recv c maxBytes =>
      cases r with
      | error e =>
        cases h
        simp [arrivedOne, callOf, receivedOne]
      | ok data =>
        by_cases hc : c = channel
        · simp only [step, callStep, hc, if_true] at h
          simp [arrivedOne, callOf, receivedOne, hc, recvStep_conserves h]
        · simp only [step, callStep, hc, if_false, Option.some.injEq] at h
          simp [arrivedOne, callOf, receivedOne, hc, h]
    | channelClosed c =>
      cases r with
      | error e =>
        cases h
        simp [arrivedOne, callOf, receivedOne]
      | ok observed =>
        simp only [step, callStep] at h
        split_ifs at h
        cases h
        simp [arrivedOne, callOf, receivedOne]
    | _ =>
      cases h
      simp [arrivedOne, callOf, receivedOne]

/-- No byte of the buffer is lost, doubled or reordered on its way to the caller. -/
theorem replay_conserves {s s' : RemoteChannel} {steps : Interleaving}
    (h : replay channel s steps = some s') :
    delivered s steps = received channel (callsOf steps) ++ s'.buffer := by
  induction steps generalizing s with
  | nil =>
    cases h
    simp [delivered, received, callsOf]
  | cons x steps ih =>
    obtain ⟨s₁, hx, hrest⟩ := Option.bind_eq_some_iff.mp h
    have hstep := step_conserves hx
    have hsteps := ih hrest
    simp only [delivered, received, callsOf] at hsteps ⊢
    rw [List.flatMap_cons, ← List.append_assoc, hstep, List.append_assoc, hsteps]
    cases hc : callOf x with
    | none => simp [hc]
    | some ev => simp [hc]

/-- The end of the stream or the close message was seen. -/
def Over (s : RemoteChannel) : Prop := s.ended = true ∨ s.closed = true

/-- A call that takes bytes out of the buffer. -/
def isRecv : PamEvent → Bool
  | ⟨.recv _ _, .ok _⟩ => true
  | _ => false

theorem step_over {s s' : RemoteChannel} {x : RemoteMove ⊕ PamEvent}
    (h : step channel s x = some s') (ho : Over s)
    (hx : ∀ ev, callOf x = some ev → isRecv ev = false) :
    s'.buffer = s.buffer ∧ Over s' := by
  cases x with
  | inl move =>
    cases move with
    | arrive data =>
      simp only [step, remoteStep] at h
      rcases ho with ho | ho <;> simp [ho] at h
    | eof =>
      cases h
      exact ⟨rfl, .inl rfl⟩
    | close =>
      cases h
      exact ⟨rfl, .inr rfl⟩
  | inr ev =>
    have hrecv := hx ev rfl
    obtain ⟨c, r⟩ := ev
    cases c with
    | recv c maxBytes =>
      cases r with
      | error e =>
        cases h
        exact ⟨rfl, ho⟩
      | ok data => cases hrecv
    | channelClosed c =>
      cases r with
      | error e =>
        cases h
        exact ⟨rfl, ho⟩
      | ok observed =>
        simp only [step, callStep] at h
        split_ifs at h
        cases h
        exact ⟨rfl, ho⟩
    | _ =>
      cases h
      exact ⟨rfl, ho⟩

/-- After the end, the buffer stays as it is until the next `recv`. -/
theorem replay_over {s s' : RemoteChannel} {steps : Interleaving}
    (h : replay channel s steps = some s') (ho : Over s)
    (hsteps : ∀ ev ∈ callsOf steps, isRecv ev = false) : s'.buffer = s.buffer := by
  induction steps generalizing s with
  | nil =>
    cases h
    rfl
  | cons x steps ih =>
    obtain ⟨s₁, hx, hrest⟩ := Option.bind_eq_some_iff.mp h
    have hstep := step_over hx ho fun ev hev => hsteps ev (by simp [callsOf, hev])
    have hlater : ∀ ev ∈ callsOf steps, isRecv ev = false := by
      intro ev hev
      obtain ⟨y, hy, hyev⟩ := List.mem_filterMap.mp hev
      exact hsteps ev (List.mem_filterMap.mpr ⟨y, List.mem_cons_of_mem x hy, hyev⟩)
    exact (ih hrest hstep.2 hlater).trans hstep.1

end Replay

section Relay

variable {channel : InteractiveSshChannel}

/-- The observation of a closed channel at the head of the loop. -/
def sawClosed (channel : Handle) : PamEvent := ⟨.channelClosed channel, .ok true⟩

/-- The local terminal reported its end. -/
def isLocalEnd : PamEvent → Bool
  | ⟨.readInput _, .ok data⟩ => data = []
  | _ => false

/-- A part of the trace that passes on what it received and sees no closed channel. -/
structure PassedOn (channel : Handle) (tr : List PamEvent) : Prop where
  written_eq : written tr = received channel tr
  open_channel : sawClosed channel ∉ tr

theorem passedOn_nil (channel : Handle) : PassedOn channel [] := ⟨rfl, by simp⟩

theorem PassedOn.append {c : Handle} {tr tr' : List PamEvent} (h : PassedOn c tr)
    (h' : PassedOn c tr') : PassedOn c (tr ++ tr') := by
  refine ⟨?_, by simp [h.open_channel, h'.open_channel]⟩
  have hw := h.written_eq
  have hw' := h'.written_eq
  simp only [written, received, List.flatMap_append] at hw hw' ⊢
  rw [hw, hw']

/-- A trace that ends because the remote side ended. -/
def EndsRemotely (c : Handle) (tr : List PamEvent) : Prop :=
  ∃ pre last, tr = pre ++ [last] ∧ PassedOn c pre ∧
    (last = sawClosed c ∨ ∃ maxBytes, last = ⟨.recv c maxBytes, .ok []⟩)

theorem EndsRemotely.prepend {c : Handle} {tr tr' : List PamEvent} (h : EndsRemotely c tr')
    (hp : PassedOn c tr) : EndsRemotely c (tr ++ tr') := by
  obtain ⟨pre, last, rfl, hpre, hlast⟩ := h
  exact ⟨tr ++ pre, last, by simp, hp.append hpre, hlast⟩

theorem relayRemote_ensures (maxBytes : ℕ) (ready : Bool) (m : Memory) :
    (relayRemote channel portTerminal maxBytes ready).Ensures m fun tr o m' => m' = m ∧
      (o = .ret false → PassedOn channel.channel tr) ∧
      (o = .ret true → EndsRemotely channel.channel tr) := by
  cases ready with
  | false =>
    refine (Prog.ensures_pure _ _ _).mpr ⟨rfl, fun _ => passedOn_nil _, ?_⟩
    simp
  | true =>
    simp only [relayRemote, InteractiveSshChannel.receive, Prog.ensures_bind',
      ensures_ask (.recv _ _), Prog.Then]
    refine ⟨fun data => ?_, fun e => ⟨trivial, by simp, by simp⟩⟩
    by_cases hdata : data = []
    · subst hdata
      refine (Prog.ensures_pure _ _ _).mpr ⟨rfl, by simp, fun _ => ?_⟩
      exact ⟨[], _, rfl, passedOn_nil _, .inr ⟨maxBytes, rfl⟩⟩
    · simp only [hdata, if_false, portTerminal, Prog.ensures_bind', ensures_ask (.writeOutput _),
        Prog.Then, Prog.ensures_pure]
      refine ⟨fun _ => ⟨trivial, fun _ => ⟨?_, ?_⟩, by simp⟩, fun e => ⟨trivial, by simp, by simp⟩⟩
      · simp [written, writtenOne, received, receivedOne]
      · simp [sawClosed]

theorem relayLocal_ensures (maxBytes : ℕ) (ready : Bool) (m : Memory) :
    (relayLocal channel portTerminal maxBytes ready).Ensures m fun tr o m' => m' = m ∧
      (o = .ret false → PassedOn channel.channel tr) ∧
      (o = .ret true → ∃ ev ∈ tr, isLocalEnd ev = true) := by
  cases ready with
  | false =>
    refine (Prog.ensures_pure _ _ _).mpr ⟨rfl, fun _ => passedOn_nil _, ?_⟩
    simp
  | true =>
    simp only [relayLocal, portTerminal, Prog.ensures_bind', ensures_ask (.readInput _), Prog.Then]
    refine ⟨fun data => ?_, fun e => ⟨trivial, by simp, by simp⟩⟩
    by_cases hdata : data = []
    · subst hdata
      refine (Prog.ensures_pure _ _ _).mpr ⟨rfl, by simp, fun _ => ?_⟩
      exact ⟨_, List.mem_singleton_self _, rfl⟩
    · simp only [hdata, if_false, InteractiveSshChannel.send, Prog.ensures_bind',
        ensures_ask (.sendall _ _), Prog.Then, Prog.ensures_pure]
      refine ⟨fun _ => ⟨trivial, fun _ => ⟨?_, ?_⟩, by simp⟩, fun e => ⟨trivial, by simp, by simp⟩⟩
      · simp [written, writtenOne, received, receivedOne]
      · simp [sawClosed]

/-- How the loop may end: if it completes and the local side did not end, the
remote side did. -/
def LoopEnd (c : Handle) (m : Memory) (tr : List PamEvent) (o : PamOutcome RelayOutcome)
    (m' : Memory) : Prop :=
  m' = m ∧ (o = .ret .completed → (∀ ev ∈ tr, isLocalEnd ev = false) → EndsRemotely c tr)

theorem LoopEnd.prepend {c : Handle} {m m' : Memory} {tr tr' : List PamEvent}
    {o : PamOutcome RelayOutcome} (h : LoopEnd c m tr' o m') (hp : PassedOn c tr) :
    LoopEnd c m (tr ++ tr') o m' := by
  refine ⟨h.1, fun ho hlocal => (h.2 ho fun ev hev => ?_).prepend hp⟩
  exact hlocal ev (List.mem_append_right _ hev)

theorem loopEnd_raise (c : Handle) (m : Memory) (tr : List PamEvent) (e : PyExn) :
    LoopEnd c m tr (.raise e) m := ⟨rfl, by simp⟩

theorem loopEnd_timeout (c : Handle) (m : Memory) (tr : List PamEvent) :
    LoopEnd c m tr (.ret .maxDurationExceeded) m := ⟨rfl, by simp⟩

/-- A call of the loop head that carries no data. -/
theorem asked_loopEnd {c : Handle} {q : PamCall} {f : q.Answer → Pam RelayOutcome} {m : Memory}
    (hq : ∀ a, PassedOn c [⟨q, .ok a⟩]) (hf : ∀ a, (f a).Ensures m (LoopEnd c m)) :
    (ask q >>= f).Ensures m (LoopEnd c m) := by
  rw [Prog.ensures_bind', ensures_ask]
  refine ⟨fun a => (hf a).mono fun tr o m' h => h.prepend (hq a), fun e => ?_⟩
  exact loopEnd_raise c m _ e

theorem relayLoop_ensures (deadline : ℚ) (maxBytes fuel : ℕ) {m : Memory}
    (hm : m.channelClosed = false) :
    (relayLoop channel portTerminal deadline maxBytes fuel).Ensures m
      (LoopEnd channel.channel m) := by
  have hquiet {call : PamCall} {a : call.Answer}
    (hr : receivedOne channel.channel ⟨call, .ok a⟩ = [])
      (hw : writtenOne ⟨call, .ok a⟩ = []) (hs : sawClosed channel.channel ≠ ⟨call, .ok a⟩) :
      PassedOn channel.channel [⟨call, .ok a⟩] := by
    refine ⟨by simp [written, received, hr, hw], by simpa using hs⟩
  induction fuel with
  | zero => exact (Prog.ensures_diverge m _).mpr trivial
  | succ fuel ih =>
    have hhead : channel.isClosed.Ensures m fun tr o m' => m' = m ∧
        ((∃ b, o = .ret b ∧ tr = [⟨.channelClosed channel.channel, .ok b⟩]) ∨
          ∃ e, o = .raise e) := by
      simp [InteractiveSshChannel.isClosed, Prog.Then, hm, ensures_ask (.channelClosed _)]
    refine hhead.bind ?_ ?_
    · intro tr closed m₁ h₁
      obtain ⟨rfl, ⟨b, hret, rfl⟩ | ⟨e, he⟩⟩ := h₁
      · cases hret
        cases closed with
        | true =>
          refine (Prog.ensures_pure _ _ _).mpr ⟨rfl, fun _ _ => ?_⟩
          exact ⟨[], _, rfl, passedOn_nil _, .inl rfl⟩
        | false =>
          have hopen : PassedOn channel.channel [⟨.channelClosed channel.channel, .ok false⟩] :=
            hquiet rfl rfl (by simp [sawClosed])
          refine Prog.Ensures.mono (Q := LoopEnd channel.channel m₁) ?_
            fun tr o m' h => h.prepend hopen
          refine asked_loopEnd (q := .monotonic) (fun _ => hquiet rfl rfl (by simp [sawClosed]))
            fun now => ?_
          by_cases hremaining : BinaryRounding.double (deadline - now) ≤ 0
          · simpa [hremaining] using loopEnd_timeout channel.channel m₁ []
          simp only [hremaining, if_false]
          refine asked_loopEnd (q := .select _) (fun _ => hquiet rfl rfl (by simp [sawClosed]))
            fun readable => ?_
          refine asked_loopEnd (q := .monotonic) (fun _ => hquiet rfl rfl (by simp [sawClosed]))
            fun later => ?_
          by_cases hlater : deadline ≤ later
          · simpa [hlater] using loopEnd_timeout channel.channel m₁ []
          simp only [hlater, if_false]
          refine (relayRemote_ensures maxBytes readable.channel m₁).bind ?_ ?_
          · intro tr ended m₂ h₂
            obtain ⟨rfl, hcontinue, hend⟩ := h₂
            cases ended with
            | true =>
              refine (Prog.ensures_pure _ _ _).mpr ⟨rfl, fun _ _ => ?_⟩
              simpa using hend rfl
            | false =>
              refine Prog.Ensures.mono (Q := LoopEnd channel.channel m₂) ?_
                fun tr o m' h => h.prepend (hcontinue rfl)
              refine (relayLocal_ensures maxBytes readable.terminal m₂).bind ?_ ?_
              · intro tr' ended m₃ h₃
                obtain ⟨rfl, hcontinue', hend'⟩ := h₃
                cases ended with
                | true =>
                  refine (Prog.ensures_pure _ _ _).mpr ⟨rfl, fun _ hlocal => ?_⟩
                  obtain ⟨ev, hev, htrue⟩ := hend' rfl
                  simp [hlocal ev (by simpa using hev)] at htrue
                | false => exact ih.mono fun tr'' o m' h => h.prepend (hcontinue' rfl)
              · intro tr' e m₃ h₃
                obtain ⟨rfl, -⟩ := h₃
                exact loopEnd_raise _ _ _ _
          · intro tr e m₂ h₂
            obtain ⟨rfl, -⟩ := h₂
            exact loopEnd_raise _ _ _ _
      · cases he
    · intro tr e m₁ h₁
      obtain ⟨rfl, -⟩ := h₁
      exact loopEnd_raise _ _ _ _

/-- A completed relay without a local end: the remote end is the last thing it
saw before it closed the channel. -/
theorem relayTerminal_ensures (fuel : ℕ) (maxDuration : ℤ) {m : Memory}
    (hm : m.channelClosed = false) :
    (relayTerminal fuel channel portTerminal maxDuration).Ensures m fun tr o _ =>
      o = .ret .completed → (∀ ev ∈ tr, isLocalEnd ev = false) → ∃ pre r,
        tr = pre ++ [⟨.closeChannel channel.channel, r⟩] ∧ EndsRemotely channel.channel pre := by
  unfold relayTerminal
  split
  · simp
  · rw [Prog.ensures_bind', ensures_ask .monotonic]
    refine ⟨fun now => ?_, fun e => by simp [Prog.Then]⟩
    have hstart : PassedOn channel.channel [⟨.monotonic, .ok now⟩] := ⟨rfl, by simp [sawClosed]⟩
    have hguarded (deadline : ℚ) : (exceptException
        (relayLoop channel portTerminal deadline 32768 fuel) fun _ => throw (raised .sshChannelError
          (py "interactive terminal relay failed"))).Ensures m (LoopEnd channel.channel m) := by
      refine ensures_exceptException (relayLoop_ensures deadline 32768 fuel hm)
        (fun _ _ _ h => h) (fun _ _ _ h _ => h) fun tr e m' h _ => ?_
      obtain ⟨rfl, -⟩ := h
      exact (ensures_throw _ _ _).mpr (loopEnd_raise _ _ _ _)
    refine (hguarded _).tryFinally fun tr o m' h => ?_
    obtain ⟨rfl, hend⟩ := h
    simp only [Prog.Cleaned, InteractiveSshChannel.close, Prog.ensures_bind' Prog.memory,
      Prog.ensures_memory, Prog.Then, hm, Bool.false_eq_true, if_false,
      Prog.ensures_bind' (Prog.modify _), Prog.ensures_modify, ensures_ask (.closeChannel _)]
    refine ⟨fun _ ho hlocal => ?_, by simp⟩
    refine ⟨[⟨.monotonic, .ok now⟩] ++ tr, .ok (), by simp,
      (hend ho fun ev hev => ?_).prepend hstart⟩
    exact hlocal ev (by simp [hev])

end Relay

/-- Whenever the relay saw a closed channel, its buffer was empty. -/
def DrainedWhenClosed (channel : Handle) (s : RemoteChannel) (steps : Interleaving) : Prop :=
  ∀ pre post, steps = pre ++ .inr (sawClosed channel) :: post →
    ∀ s', replay channel s pre = some s' → s'.buffer = []

theorem callsOf_split {steps : Interleaving} {pre post : List PamEvent} {ev : PamEvent}
    (h : callsOf steps = pre ++ ev :: post) : ∃ before after,
      steps = before ++ .inr ev :: after ∧ callsOf before = pre ∧ callsOf after = post := by
  obtain ⟨before, rest, rfl, hbefore, hrest⟩ := List.filterMap_eq_append_iff.mp h
  obtain ⟨moves, x, after, rfl, hmoves, hx, hafter⟩ := List.filterMap_eq_cons_iff.mp hrest
  have hxev : x = .inr ev := by
    cases x with
    | inl move => cases hx
    | inr ev' =>
      cases hx
      rfl
  refine ⟨before ++ moves, after, by simp [hxev], ?_, hafter⟩
  have hnone : moves.filterMap callOf = [] := List.filterMap_eq_nil_iff.mpr hmoves
  simp [callsOf, hbefore, hnone]

/-- The channel is over after a `recv` without bytes and after a `closed` that is true. -/
theorem step_remote_end {channel : Handle} {s s' : RemoteChannel} {last : PamEvent}
    (h : step channel s (.inr last) = some s')
    (hlast : last = sawClosed channel ∨ ∃ maxBytes, last = ⟨.recv channel maxBytes, .ok []⟩) :
    s' = s ∧ Over s ∧ (last ≠ sawClosed channel → s.buffer = []) := by
  rcases hlast with rfl | ⟨maxBytes, rfl⟩
  · simp only [step, sawClosed, callStep] at h
    split_ifs at h with hclosed
    cases h
    exact ⟨rfl, .inr (by simpa using hclosed), by simp⟩
  · simp only [step, callStep, recvStep, if_true] at h
    split_ifs at h with hend
    cases h
    exact ⟨rfl, by simpa [Over] using hend.2, fun _ => hend.1⟩

/-- All output reached the terminal exactly when the relay never saw a closed
channel with bytes left in its buffer. -/
theorem relay_output_complete_iff (fuel : ℕ) (channel : InteractiveSshChannel) (maxDuration : ℤ)
    {m m' : Memory} {tr : List PamEvent} {s s' : RemoteChannel} {steps : Interleaving}
    (hm : m.channelClosed = false)
    (hrun : (relayTerminal fuel channel portTerminal maxDuration).Run m tr (.ret .completed) m')
    (hlocal : ∀ ev ∈ tr, isLocalEnd ev = false) (hsteps : callsOf steps = tr)
    (hreplay : replay channel.channel s steps = some s') :
    written tr = delivered s steps ↔ DrainedWhenClosed channel.channel s steps := by
  obtain ⟨_, r, rfl, pre, last, rfl, hpassed, hlast⟩ :=
    relayTerminal_ensures fuel maxDuration hm tr _ m' hrun rfl hlocal
  obtain ⟨before, after, rfl, hbefore, hafter⟩ := callsOf_split
    (by simpa using hsteps : callsOf steps = pre ++ last :: [⟨.closeChannel channel.channel, r⟩])
  have hconserved := replay_conserves hreplay
  -- the state when the remote end was seen, and its buffer until the end of the run
  rw [replay_append] at hreplay
  obtain ⟨s₁, hs₁, hrest⟩ := Option.bind_eq_some_iff.mp hreplay
  obtain ⟨s₂, hs₂, hs'⟩ := Option.bind_eq_some_iff.mp hrest
  obtain ⟨rfl, hover, hempty⟩ := step_remote_end hs₂ hlast
  have hbuffer : s'.buffer = s₂.buffer := replay_over hs' hover (by simp [hafter, isRecv])
  have hwritten : written (pre ++ [last] ++ [⟨.closeChannel channel.channel, r⟩]) =
      received channel.channel (pre ++ [last] ++ [⟨.closeChannel channel.channel, r⟩]) := by
    have hpre := hpassed.written_eq
    rcases hlast with rfl | ⟨maxBytes, rfl⟩ <;>
      simpa [written, received, writtenOne, receivedOne, sawClosed] using hpre
  rw [hconserved, hsteps, hwritten, List.self_eq_append_right, hbuffer]
  constructor
  · intro hbuf before' after' hsplit s₃ hs₃
    have hbefore' : (.inr (sawClosed channel.channel) : RemoteMove ⊕ PamEvent) ∉ before := by
      intro hmem
      refine hpassed.open_channel ?_
      rw [← hbefore]
      exact List.mem_filterMap.mpr ⟨_, hmem, rfl⟩
    have hafter' : (.inr (sawClosed channel.channel) : RemoteMove ⊕ PamEvent) ∉ after := by
      intro hmem
      have hclose : sawClosed channel.channel ∈ callsOf after :=
        List.mem_filterMap.mpr ⟨_, hmem, rfl⟩
      simp [hafter, sawClosed] at hclose
    obtain ⟨rfl, -⟩ := (List.append_cons_inj_of_notMem hbefore' hafter').mp hsplit
    cases hs₁.symm.trans hs₃
    exact hbuf
  · intro hdrained
    by_cases hsaw : last = sawClosed channel.channel
    · subst hsaw
      exact hdrained before after rfl s₂ hs₁
    · exact hempty hsaw

section Example

/-- The last output and the close message arrive before the first loop head. -/
def finalBurst (tr : List PamEvent) : Interleaving :=
  .inl (.arrive [98, 121, 101]) :: .inl .close :: tr.map .inr

def closedWorld (past : List PamEvent) : (c : PamCall) → Reply pamSignature c
  | .monotonic => .ok (past.length : ℚ)
  | .channelClosed _ => .ok true
  | .closeChannel _ => .ok ()
  | _ => .error (raised .otherException [])

def burstRun : Option (List PamEvent × PamOutcome RelayOutcome × Memory) :=
  (relayTerminal 1 ⟨4⟩ portTerminal 1).exec closedWorld [] AccessAuditTrail.exampleMemory

theorem relay_loses_final_burst : ∃ tr m' s',
    (relayTerminal 1 ⟨4⟩ portTerminal 1).Run AccessAuditTrail.exampleMemory tr
      (.ret .completed) m' ∧
    (∀ ev ∈ tr, isLocalEnd ev = false) ∧ callsOf (finalBurst tr) = tr ∧
    replay 4 ⟨[], false, false⟩ (finalBurst tr) = some s' ∧
    written tr = [] ∧ delivered ⟨[], false, false⟩ (finalBurst tr) = [98, 121, 101] := by
  obtain ⟨tr, m', s', hexec, hlocal, hcalls, hreplay, hwritten, hdelivered⟩ : ∃ tr m' s',
      burstRun = some (tr, .ret .completed, m') ∧ (∀ ev ∈ tr, isLocalEnd ev = false) ∧
      callsOf (finalBurst tr) = tr ∧ replay 4 ⟨[], false, false⟩ (finalBurst tr) = some s' ∧
      written tr = [] ∧ delivered ⟨[], false, false⟩ (finalBurst tr) = [98, 121, 101] :=
    ⟨_, _, _, rfl, by decide, rfl, rfl, rfl, rfl⟩
  exact ⟨tr, m', s', Prog.run_exec _ _ _ _ _ _ _ hexec, hlocal, hcalls, hreplay, hwritten,
    hdelivered⟩

/-- The output is there from the start, and the close message comes after it was written. -/
def lateClose (tr : List PamEvent) : Interleaving :=
  .inl (.arrive [98, 121, 101]) :: (tr.take 7).map .inr ++ .inl .close :: (tr.drop 7).map .inr

def drainedWorld (past : List PamEvent) : (c : PamCall) → Reply pamSignature c
  | .monotonic => .ok (0 : ℚ)
  | .channelClosed _ => .ok (decide (7 ≤ past.length))
  | .select _ => .ok ⟨false, true⟩
  | .recv _ _ => .ok [98, 121, 101]
  | .writeOutput _ => .ok ()
  | .closeChannel _ => .ok ()
  | _ => .error (raised .otherException [])

def drainedRun : Option (List PamEvent × PamOutcome RelayOutcome × Memory) :=
  (relayTerminal 2 ⟨4⟩ portTerminal 1000000).exec drainedWorld [] AccessAuditTrail.exampleMemory

def isCompleted : PamOutcome RelayOutcome → Bool
  | .ret .completed => true
  | _ => false

def seesClosed : PamEvent → Bool
  | ⟨.channelClosed c, .ok closed⟩ => c == 4 && closed
  | _ => false

theorem drainedRun_observed : (drainedRun.map fun out => ([isCompleted out.2.1,
    out.1.any isLocalEnd, out.1.any seesClosed,
    (replay 4 ⟨[], false, false⟩ (lateClose out.1)).isSome], written out.1,
    delivered ⟨[], false, false⟩ (lateClose out.1))) =
      some ([true, false, true, true], [98, 121, 101], [98, 121, 101]) := by
  decide +kernel

theorem callsOf_lateClose (tr : List PamEvent) : callsOf (lateClose tr) = tr := by
  have hcalls : ∀ evs : List PamEvent, callsOf (evs.map .inr) = evs := by
    intro evs
    simp [callsOf, List.filterMap_map, Function.comp_def, callOf]
  have hsplit : callsOf (lateClose tr) =
      callsOf ((tr.take 7).map .inr) ++ callsOf ((tr.drop 7).map .inr) := by
    simp only [lateClose, callsOf, List.cons_append, List.filterMap_cons, List.filterMap_append,
      callOf]
  rw [hsplit, hcalls, hcalls, List.take_append_drop]

/-- One relay loses the final burst, the other sees the channel closed and loses nothing. -/
theorem relay_output_complete_iff_example :
    (∃ tr m', burstRun = some (tr, .ret .completed, m') ∧ written tr = [] ∧
      ¬ DrainedWhenClosed 4 ⟨[], false, false⟩ (finalBurst tr)) ∧
    ∃ tr m', drainedRun = some (tr, .ret .completed, m') ∧ tr.any seesClosed = true ∧
      written tr = [98, 121, 101] ∧ DrainedWhenClosed 4 ⟨[], false, false⟩ (lateClose tr) := by
  constructor
  · obtain ⟨tr, m', s', hexec, hlocal, hcalls, hreplay, hwritten, hlost⟩ : ∃ tr m' s',
        burstRun = some (tr, .ret .completed, m') ∧ (∀ ev ∈ tr, isLocalEnd ev = false) ∧
        callsOf (finalBurst tr) = tr ∧ replay 4 ⟨[], false, false⟩ (finalBurst tr) = some s' ∧
        written tr = [] ∧ delivered ⟨[], false, false⟩ (finalBurst tr) ≠ [] :=
      ⟨_, _, _, rfl, by decide, rfl, rfl, rfl, by decide⟩
    refine ⟨tr, m', hexec, hwritten, fun hdrained => hlost ?_⟩
    rw [← (relay_output_complete_iff 1 ⟨4⟩ 1 rfl (Prog.run_exec _ _ _ _ _ _ _ hexec) hlocal hcalls
      hreplay).mpr hdrained, hwritten]
  · obtain ⟨⟨tr, o, m'⟩, hexec, hobserved⟩ := Option.map_eq_some_iff.mp drainedRun_observed
    simp only [Prod.mk.injEq, List.cons.injEq, and_true] at hobserved
    obtain ⟨⟨hcompleted, hlocal, hsees, hreplay⟩, hwritten, hall⟩ := hobserved
    obtain rfl : o = .ret .completed := by
      unfold isCompleted at hcompleted
      split at hcompleted
      · rfl
      · cases hcompleted
    obtain ⟨s', hreplay⟩ := Option.isSome_iff_exists.mp hreplay
    refine ⟨tr, m', hexec, hsees, hwritten, ?_⟩
    exact (relay_output_complete_iff 2 ⟨4⟩ 1000000 rfl (Prog.run_exec _ _ _ _ _ _ _ hexec)
      (by simpa using hlocal) (callsOf_lateClose tr) hreplay).mp (hwritten.trans hall.symm)

end Example

end PamMvp.RelayOutputLoss
