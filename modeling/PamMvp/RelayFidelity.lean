import PamMvp.BrokeredSessions
import Mathlib.Tactic.Linarith

/-!
# The relay over the local terminal

`LocalTerminalIO` reads and writes file descriptors, and repeats a short write until
all bytes are out. Over it the relay passes both directions on in order, and one
deadline, fixed by the first clock reading, ends it whatever happens in between. Sums
and differences of times are rounded, so the deadline and the waits are those of exact
arithmetic up to a small part of the clock reading and of the duration.
-/
namespace PamMvp.RelayFidelity
open InteractionPrograms BinaryRounding PythonText DomainModel PamCalls SshConnecting
  BrokeredSessions

/-- `LocalTerminalIO`. -/
structure LocalTerminalIO where
  inputFd : ℕ
  outputFd : ℕ

namespace LocalTerminalIO

def readInput (self : LocalTerminalIO) (maxBytes : ℕ) : Pam Bytes :=
  if maxBytes = 0 then throw (raised .valueError (py "max_bytes must be positive"))
  else ask (.osRead self.inputFd maxBytes)

/-- The `while` loop of `write_output`. Every turn writes at least one byte, so as many
turns as there are bytes are enough. -/
def writeLoop (self : LocalTerminalIO) : ℕ → Bytes → Pam Unit
  | 0, _ => return ()
  | turns + 1, remaining => do
    if remaining = [] then return ()
    else
      let written ← ask (.osWrite self.outputFd remaining)
      if written = 0 then throw (raised .osError (py "terminal output write made no progress"))
      else self.writeLoop turns (remaining.drop written)

def writeOutput (self : LocalTerminalIO) (data : Bytes) : Pam Unit :=
  self.writeLoop data.length data

/-- The terminal that the relay uses. -/
def port (self : LocalTerminalIO) : TerminalIO := ⟨self.readInput, self.writeOutput⟩

end LocalTerminalIO

section Traffic

variable (terminal : LocalTerminalIO) (channel : Handle)

def receivedOne : PamEvent → Bytes
  | ⟨.recv c _, .ok data⟩ => if c = channel then data else []
  | _ => []

/-- `os.write` reports how many of the bytes it has written. -/
def writtenOne : PamEvent → Bytes
  | ⟨.osWrite fd data, .ok count⟩ => if fd = terminal.outputFd then data.take count else []
  | _ => []

def typedOne : PamEvent → List Bytes
  | ⟨.osRead fd _, .ok data⟩ => if fd = terminal.inputFd ∧ data ≠ [] then [data] else []
  | _ => []

def sentOne : PamEvent → List Bytes
  | ⟨.sendall c data, .ok _⟩ => if c = channel then [data] else []
  | _ => []

/-- The bytes received from the channel. -/
def received (tr : List PamEvent) : Bytes := tr.flatMap (receivedOne channel)

/-- The bytes written to the output descriptor. -/
def written (tr : List PamEvent) : Bytes := tr.flatMap (writtenOne terminal)

/-- The chunks read from the input descriptor; an empty one is its end. -/
def typed (tr : List PamEvent) : List Bytes := tr.flatMap (typedOne terminal)

/-- The chunks sent to the channel. -/
def sent (tr : List PamEvent) : List Bytes := tr.flatMap (sentOne channel)

/-- At every moment the output is a prefix of what was received, and all typed chunks
but possibly the last one were sent. -/
structure Flow (tr : List PamEvent) : Prop where
  output : ∀ pre, pre <+: tr → written terminal pre <+: received channel pre
  input : ∀ pre, pre <+: tr → typed terminal pre = sent channel pre ∨
    ∃ chunk, typed terminal pre = sent channel pre ++ [chunk]

/-- Nothing is under way at the end of the trace. -/
structure Balanced (tr : List PamEvent) : Prop extends Flow terminal channel tr where
  allWritten : written terminal tr = received channel tr
  allSent : sent channel tr = typed terminal tr

end Traffic

section Segments

variable {terminal : LocalTerminalIO} {channel : Handle} {tr tr' : List PamEvent}

theorem received_append (tr tr' : List PamEvent) :
    received channel (tr ++ tr') = received channel tr ++ received channel tr' :=
  List.flatMap_append

theorem written_append (tr tr' : List PamEvent) :
    written terminal (tr ++ tr') = written terminal tr ++ written terminal tr' :=
  List.flatMap_append

theorem typed_append (tr tr' : List PamEvent) :
    typed terminal (tr ++ tr') = typed terminal tr ++ typed terminal tr' :=
  List.flatMap_append

theorem sent_append (tr tr' : List PamEvent) :
    sent channel (tr ++ tr') = sent channel tr ++ sent channel tr' :=
  List.flatMap_append

/-- A prefix of a concatenation ends in its first or in its second part. -/
theorem prefix_of_append {α : Type} {pre a b : List α} (h : pre <+: a ++ b) :
    pre <+: a ∨ ∃ pre', pre' <+: b ∧ pre = a ++ pre' := by
  rcases le_total pre.length a.length with hle | hle
  · exact .inl (List.prefix_of_prefix_length_le h (List.prefix_append a b) hle)
  · obtain ⟨rest, rfl⟩ := List.prefix_of_prefix_length_le (List.prefix_append a b) h hle
    exact .inr ⟨rest, (List.prefix_append_right_inj a).mp h, rfl⟩

theorem Balanced.append_flow (h : Balanced terminal channel tr) (h' : Flow terminal channel tr') :
    Flow terminal channel (tr ++ tr') where
  output pre hpre := by
    rcases prefix_of_append hpre with hpre | ⟨pre', hpre', rfl⟩
    · exact h.output pre hpre
    · rw [written_append, received_append, h.allWritten]
      exact (List.prefix_append_right_inj _).mpr (h'.output pre' hpre')
  input pre hpre := by
    rcases prefix_of_append hpre with hpre | ⟨pre', hpre', rfl⟩
    · exact h.input pre hpre
    · rw [typed_append, sent_append, h.allSent]
      rcases h'.input pre' hpre' with heq | ⟨chunk, heq⟩
      · exact .inl (by rw [heq])
      · exact .inr ⟨chunk, by rw [heq, List.append_assoc]⟩

theorem Balanced.append (h : Balanced terminal channel tr) (h' : Balanced terminal channel tr') :
    Balanced terminal channel (tr ++ tr') where
  toFlow := h.append_flow h'.toFlow
  allWritten := by rw [written_append, received_append, h.allWritten, h'.allWritten]
  allSent := by rw [sent_append, typed_append, h.allSent, h'.allSent]

/-- Calls that carry no data. -/
def Quiet (terminal : LocalTerminalIO) (channel : Handle) (ev : PamEvent) : Prop :=
  receivedOne channel ev = [] ∧ writtenOne terminal ev = [] ∧ typedOne terminal ev = [] ∧
    sentOne channel ev = []

theorem quiet_flows (h : ∀ ev ∈ tr, Quiet terminal channel ev) : received channel tr = [] ∧
    written terminal tr = [] ∧ typed terminal tr = [] ∧ sent channel tr = [] := by
  refine ⟨?_, ?_, ?_, ?_⟩ <;> refine List.flatMap_eq_nil_iff.mpr fun ev hev => ?_
  · exact (h ev hev).1
  · exact (h ev hev).2.1
  · exact (h ev hev).2.2.1
  · exact (h ev hev).2.2.2

theorem balanced_of_quiet (h : ∀ ev ∈ tr, Quiet terminal channel ev) :
    Balanced terminal channel tr := by
  have hpart : ∀ pre, pre <+: tr → ∀ ev ∈ pre, Quiet terminal channel ev :=
    fun pre hpre ev hev => h ev (hpre.subset hev)
  obtain ⟨hreceived, hwritten, htyped, hsent⟩ := quiet_flows h
  refine ⟨⟨fun pre hpre => ?_, fun pre hpre => .inl ?_⟩, ?_, ?_⟩
  · rw [(quiet_flows (hpart pre hpre)).2.1]
    exact List.nil_prefix
  · rw [(quiet_flows (hpart pre hpre)).2.2.1, (quiet_flows (hpart pre hpre)).2.2.2]
  · rw [hreceived, hwritten]
  · rw [htyped, hsent]

/-- A segment whose calls only write. -/
theorem silent_flows (h : ∀ ev ∈ tr, receivedOne channel ev = [] ∧ typedOne terminal ev = [] ∧
    sentOne channel ev = []) :
    received channel tr = [] ∧ typed terminal tr = [] ∧ sent channel tr = [] := by
  refine ⟨?_, ?_, ?_⟩ <;> refine List.flatMap_eq_nil_iff.mpr fun ev hev => ?_
  · exact (h ev hev).1
  · exact (h ev hev).2.1
  · exact (h ev hev).2.2

/-- Writing out what one `recv` returned. -/
theorem flow_of_writes (maxBytes : ℕ) {data : Bytes}
    (h : ∀ ev ∈ tr, receivedOne channel ev = [] ∧ typedOne terminal ev = [] ∧
      sentOne channel ev = []) (hwritten : written terminal tr <+: data) :
    Flow terminal channel (⟨.recv channel maxBytes, .ok data⟩ :: tr) := by
  constructor
  · intro pre hpre
    rcases List.prefix_cons_iff.mp hpre with rfl | ⟨rest, rfl, later, rfl⟩
    · exact List.prefix_rfl
    · rw [written_append] at hwritten
      have hout : written terminal rest <+: data := (List.prefix_append _ _).trans hwritten
      simp only [written, received, List.flatMap_cons, writtenOne, receivedOne, if_true,
        List.nil_append]
      exact hout.trans (List.prefix_append _ _)
  · intro pre hpre
    rcases List.prefix_cons_iff.mp hpre with rfl | ⟨rest, rfl, hrest⟩
    · exact .inl rfl
    · obtain ⟨-, htyped, hsent⟩ := silent_flows fun ev hev => h ev (hrest.subset hev)
      refine .inl ?_
      rw [← List.singleton_append, typed_append, sent_append, htyped, hsent]
      rfl

/-- Sending one chunk that was typed. -/
theorem flow_of_send {data : Bytes} (hdata : data ≠ []) (maxBytes : ℕ) (r : Except PyExn Unit) :
    Flow terminal channel
      [⟨.osRead terminal.inputFd maxBytes, .ok data⟩, ⟨.sendall channel data, r⟩] := by
  constructor
  · intro pre hpre
    have hnone : written terminal pre = [] := by
      refine List.flatMap_eq_nil_iff.mpr fun ev hev => ?_
      have hmem := hpre.subset hev
      simp only [List.mem_cons, List.not_mem_nil, or_false] at hmem
      rcases hmem with rfl | rfl <;> rfl
    rw [hnone]
    exact List.nil_prefix
  · intro pre hpre
    rcases List.prefix_cons_iff.mp hpre with rfl | ⟨rest, rfl, hrest⟩
    · exact .inl rfl
    rcases List.prefix_cons_iff.mp hrest with rfl | ⟨rest, rfl, hnil⟩
    · exact .inr ⟨data, by simp [typed, sent, typedOne, sentOne, hdata]⟩
    · rw [List.prefix_nil.mp hnil]
      cases r with
      | ok u => exact .inl (by simp [typed, sent, typedOne, sentOne, hdata])
      | error e => exact .inr ⟨data, by simp [typed, sent, typedOne, sentOne, hdata]⟩

/-- How a segment ends when a call of it failed: only a chunk whose `send` raised can be
missing. -/
structure Halted (terminal : LocalTerminalIO) (channel : Handle) (tr : List PamEvent) : Prop
    extends Flow terminal channel tr where
  missing : typed terminal tr = sent channel tr ∨ ∃ chunk e,
    typed terminal tr = sent channel tr ++ [chunk] ∧ ⟨.sendall channel chunk, .error e⟩ ∈ tr

theorem Balanced.halted (h : Balanced terminal channel tr) : Halted terminal channel tr :=
  ⟨h.toFlow, .inl h.allSent.symm⟩

theorem Balanced.append_halted (h : Balanced terminal channel tr)
    (h' : Halted terminal channel tr') : Halted terminal channel (tr ++ tr') := by
  refine ⟨h.append_flow h'.toFlow, ?_⟩
  rw [typed_append, sent_append, h.allSent]
  rcases h'.missing with heq | ⟨chunk, e, heq, hmem⟩
  · exact .inl (by rw [heq])
  · exact .inr ⟨chunk, e, by rw [heq, List.append_assoc], List.mem_append_right _ hmem⟩

/-- Calls without data may follow a failure. -/
theorem Halted.append_quiet (h : Halted terminal channel tr)
    (hquiet : ∀ ev ∈ tr', Quiet terminal channel ev) : Halted terminal channel (tr ++ tr') := by
  have hsame : ∀ pre, pre <+: tr' → received channel (tr ++ pre) = received channel tr ∧
      written terminal (tr ++ pre) = written terminal tr ∧
      typed terminal (tr ++ pre) = typed terminal tr ∧
      sent channel (tr ++ pre) = sent channel tr := by
    intro pre hpre
    obtain ⟨hreceived, hwritten, htyped, hsent⟩ :=
      quiet_flows fun ev hev => hquiet ev (hpre.subset hev)
    simp [received_append, written_append, typed_append, sent_append, hreceived, hwritten, htyped,
      hsent]
  refine ⟨⟨fun pre hpre => ?_, fun pre hpre => ?_⟩, ?_⟩
  · rcases prefix_of_append hpre with hpre | ⟨pre', hpre', rfl⟩
    · exact h.output pre hpre
    · rw [(hsame pre' hpre').1, (hsame pre' hpre').2.1]
      exact h.output tr List.prefix_rfl
  · rcases prefix_of_append hpre with hpre | ⟨pre', hpre', rfl⟩
    · exact h.input pre hpre
    · rw [(hsame pre' hpre').2.2.1, (hsame pre' hpre').2.2.2]
      exact h.input tr List.prefix_rfl
  · obtain ⟨-, -, htyped, hsent⟩ := hsame tr' List.prefix_rfl
    rw [htyped, hsent]
    rcases h.missing with heq | ⟨chunk, e, heq, hmem⟩
    · exact .inl heq
    · exact .inr ⟨chunk, e, heq, List.mem_append_left _ hmem⟩

end Segments

section Timing

def readingOne : PamEvent → Option ℚ
  | ⟨.monotonic, .ok t⟩ => some t
  | _ => none

/-- The clock readings of a trace. -/
def readings (tr : List PamEvent) : List ℚ := tr.filterMap readingOne

/-- A `select` waits for what the reading before it leaves of the time. -/
def WaitsFor (deadline : ℚ) (pre : List PamEvent) (ev : PamEvent) : Prop :=
  ∀ timeout, ev.1 = .select timeout → ∃ before t, pre = before ++ [⟨.monotonic, .ok t⟩] ∧
    t < deadline ∧ timeout = double (deadline - t)

/-- Only the close of the channel follows a reading at or past the deadline. -/
def InTime (channel : Handle) (deadline : ℚ) (pre : List PamEvent) (ev : PamEvent) : Prop :=
  ev.1 ≠ .closeChannel channel → ∀ t ∈ readings pre, t < deadline

/-- The deadline rules the trace. -/
structure Timed (channel : Handle) (deadline : ℚ) (tr : List PamEvent) : Prop where
  waits : Guarded (WaitsFor deadline) tr
  inTime : Guarded (InTime channel deadline) tr

variable {channel : Handle} {deadline : ℚ} {tr tr' : List PamEvent}

theorem readings_append (tr tr' : List PamEvent) :
    readings (tr ++ tr') = readings tr ++ readings tr' :=
  List.filterMap_append

theorem Timed.append (h : Timed channel deadline tr) (hbelow : ∀ t ∈ readings tr, t < deadline)
    (h' : Timed channel deadline tr') : Timed channel deadline (tr ++ tr') := by
  constructor
  · refine (guarded_append _ _).mpr ⟨h.waits, h'.waits.mono fun pre ev hev timeout hselect => ?_⟩
    obtain ⟨before, t, rfl, ht, htimeout⟩ := hev timeout hselect
    exact ⟨tr ++ before, t, by simp, ht, htimeout⟩
  · refine (guarded_append _ _).mpr ⟨h.inTime, h'.inTime.mono fun pre ev hev hclose t ht => ?_⟩
    rw [readings_append] at ht
    rcases List.mem_append.mp ht with ht | ht
    · exact hbelow t ht
    · exact hev hclose t ht

/-- Calls that neither read the clock nor wait. -/
def Untimed (ev : PamEvent) : Prop := readingOne ev = none ∧ ∀ timeout, ev.1 ≠ .select timeout

theorem readings_untimed (h : ∀ ev ∈ tr, Untimed ev) : readings tr = [] :=
  List.filterMap_eq_nil_iff.mpr fun ev hev => (h ev hev).1

theorem timed_of_untimed (h : ∀ ev ∈ tr, Untimed ev) : Timed channel deadline tr := by
  constructor
  · exact Guarded.of_forall fun ev hev pre timeout hselect => absurd hselect ((h ev hev).2 timeout)
  · refine (guarded_of_forall_mem h).mono fun pre ev hpre hclose t ht => ?_
    rw [readings_untimed hpre] at ht
    cases ht

theorem timed_reading (r : Except PyExn ℚ) : Timed channel deadline [⟨.monotonic, r⟩] := by
  constructor
  · simp [WaitsFor]
  · simp only [guarded_cons, guarded_nil, and_true]
    exact fun _ t ht => absurd ht List.not_mem_nil

/-- A reading before the deadline and the `select` after it. -/
theorem timed_select {t : ℚ} (ht : t < deadline) (r : Except PyExn Readable) :
    Timed channel deadline
      [⟨.monotonic, .ok t⟩, ⟨.select (double (deadline - t)), r⟩] := by
  constructor
  · simp only [guarded_cons, guarded_nil, and_true]
    refine ⟨by simp [WaitsFor], fun timeout hselect => ⟨[], t, rfl, ht, ?_⟩⟩
    cases hselect
    rfl
  · simp only [guarded_cons, guarded_nil, and_true]
    refine ⟨fun _ u hu => absurd hu List.not_mem_nil, fun _ u hu => ?_⟩
    rwa [List.mem_singleton.mp hu]

end Timing

section Directions

variable {terminal : LocalTerminalIO} {channel : InteractiveSshChannel}

/-- A write to the output descriptor. -/
def Writes (terminal : LocalTerminalIO) (ev : PamEvent) : Prop :=
  ∃ data r, ev = ⟨.osWrite terminal.outputFd data, r⟩

theorem Writes.silent {ev : PamEvent} (h : Writes terminal ev) (c : Handle) :
    (receivedOne c ev = [] ∧ typedOne terminal ev = [] ∧ sentOne c ev = []) ∧ Untimed ev := by
  obtain ⟨data, r, rfl⟩ := h
  exact ⟨⟨rfl, rfl, rfl⟩, rfl, fun _ => nofun⟩

/-- The loop writes all bytes, or a prefix of them before a failure. -/
theorem writeLoop_ensures (turns : ℕ) (remaining : Bytes) (hturns : remaining.length ≤ turns)
    (m : Memory) : (terminal.writeLoop turns remaining).Ensures m fun tr o m' =>
      m' = m ∧ (∀ ev ∈ tr, Writes terminal ev) ∧
      ((o = .ret () ∧ written terminal tr = remaining) ∨
        ∃ e, o = .raise e ∧ written terminal tr <+: remaining) := by
  induction turns generalizing remaining with
  | zero =>
    have hnil : remaining = [] := List.eq_nil_of_length_eq_zero (by omega)
    refine (Prog.ensures_pure _ _ _).mpr ⟨rfl, by simp, .inl ⟨rfl, ?_⟩⟩
    rw [hnil]
    rfl
  | succ turns ih =>
    unfold LocalTerminalIO.writeLoop
    by_cases hnil : remaining = []
    · rw [if_pos hnil]
      refine (Prog.ensures_pure _ _ _).mpr ⟨rfl, by simp, .inl ⟨rfl, ?_⟩⟩
      rw [hnil]
      rfl
    · rw [if_neg hnil, Prog.ensures_bind', ensures_ask]
      constructor
      · intro (count : ℕ)
        by_cases hzero : count = 0
        · simp only [Prog.Then, hzero, if_true, ensures_throw]
          refine ⟨trivial, ?_, .inr ⟨_, rfl, ?_⟩⟩
          · simp [Writes]
          · simp [written, writtenOne]
        · simp only [Prog.Then, hzero, if_false]
          have hshort : (remaining.drop count).length ≤ turns := by
            have hpos : 0 < count := Nat.pos_of_ne_zero hzero
            rw [List.length_drop]
            omega
          refine (ih (remaining.drop count) hshort).mono fun tr o m' h => ?_
          obtain ⟨rfl, hwrites, hend⟩ := h
          have hfirst : written terminal
            ([⟨.osWrite terminal.outputFd remaining, .ok count⟩] ++ tr) =
              remaining.take count ++ written terminal tr := by
            rw [written_append]
            simp [written, writtenOne]
          refine ⟨rfl, ?_, ?_⟩
          · intro ev hev
            rcases List.mem_cons.mp hev with rfl | hev
            · exact ⟨remaining, .ok count, rfl⟩
            · exact hwrites ev hev
          · rw [hfirst]
            rcases hend with ⟨rfl, hall⟩ | ⟨e, rfl, hpart⟩
            · exact .inl ⟨rfl, by rw [hall, List.take_append_drop]⟩
            · refine .inr ⟨e, rfl, ?_⟩
              have hjoin := (List.prefix_append_right_inj (remaining.take count)).mpr hpart
              rwa [List.take_append_drop] at hjoin
      · intro e
        refine ⟨rfl, by simp [Writes], .inr ⟨e, rfl, ?_⟩⟩
        exact List.nil_prefix

section

variable {tr : List PamEvent} {maxBytes : ℕ} {data : Bytes}

theorem recv_untimed (h : ∀ ev ∈ tr, Writes terminal ev) :
    ∀ ev ∈ (⟨.recv channel.channel maxBytes, .ok data⟩ : PamEvent) :: tr, Untimed ev := by
  intro ev hev
  rcases List.mem_cons.mp hev with rfl | hev
  · exact ⟨rfl, fun _ => nofun⟩
  · exact ((h ev hev).silent channel.channel).2

theorem halted_of_writes (h : ∀ ev ∈ tr, Writes terminal ev)
    (hwritten : written terminal tr <+: data) :
    Halted terminal channel.channel (⟨.recv channel.channel maxBytes, .ok data⟩ :: tr) := by
  have hsilent := fun ev hev => ((h ev hev).silent channel.channel).1
  obtain ⟨-, htyped, hsent⟩ := silent_flows hsilent
  refine ⟨flow_of_writes maxBytes hsilent hwritten, .inl ?_⟩
  rw [← List.singleton_append, typed_append, sent_append, htyped, hsent]
  rfl

theorem balanced_of_writes (h : ∀ ev ∈ tr, Writes terminal ev)
    (hwritten : written terminal tr = data) :
    Balanced terminal channel.channel (⟨.recv channel.channel maxBytes, .ok data⟩ :: tr) := by
  have hsilent := fun ev hev => ((h ev hev).silent channel.channel).1
  obtain ⟨hreceived, htyped, hsent⟩ := silent_flows hsilent
  refine ⟨flow_of_writes maxBytes hsilent (hwritten ▸ List.prefix_rfl), ?_, ?_⟩
  · rw [← List.singleton_append, written_append, received_append, hreceived, hwritten]
    simp [written, received, writtenOne, receivedOne]
  · rw [← List.singleton_append, typed_append, sent_append, htyped, hsent]
    rfl

end

/-- What a branch of the loop leaves behind. -/
def BranchEnd {α : Type} (terminal : LocalTerminalIO) (channel : Handle) (m : Memory)
    (tr : List PamEvent) (o : PamOutcome α) (m' : Memory) : Prop :=
  m' = m ∧ (∀ ev ∈ tr, Untimed ev) ∧
    ((∃ b, o = .ret b ∧ Balanced terminal channel tr) ∨
      ∃ e, o = .raise e ∧ Halted terminal channel tr)

theorem branchEnd_idle (m : Memory) :
    BranchEnd terminal channel.channel m [] (.ret false) m :=
  ⟨rfl, by simp, .inl ⟨false, rfl, balanced_of_quiet (by simp)⟩⟩

/-- A call of a branch that failed without data. -/
theorem branchEnd_failed {α : Type} {c : PamCall} {e : PyExn} (hc : Untimed ⟨c, .error e⟩)
    (hquiet : Quiet terminal channel.channel ⟨c, .error e⟩) (m : Memory) :
    BranchEnd (α := α) terminal channel.channel m [⟨c, .error e⟩] (.raise e) m := by
  refine ⟨rfl, by simpa using hc, .inr ⟨e, rfl, Balanced.halted (balanced_of_quiet ?_)⟩⟩
  simpa using hquiet

theorem relayRemote_ensures (maxBytes : ℕ) (ready : Bool) (m : Memory) :
    (relayRemote channel terminal.port maxBytes ready).Ensures m
      (BranchEnd terminal channel.channel m) := by
  cases ready with
  | false => exact (Prog.ensures_pure _ _ _).mpr (branchEnd_idle m)
  | true =>
    simp only [relayRemote, InteractiveSshChannel.receive, Prog.ensures_bind',
      ensures_ask (.recv _ _)]
    refine ⟨fun data => ?_, fun e => branchEnd_failed ?_ ⟨rfl, rfl, rfl, rfl⟩ m⟩
    rotate_left
    · exact ⟨rfl, by simp⟩
    by_cases hdata : data = []
    · subst hdata
      refine (Prog.ensures_pure _ _ _).mpr
        ⟨rfl, by simp [Untimed, readingOne], .inl ⟨true, rfl, ?_⟩⟩
      exact balanced_of_quiet (by simp [Quiet, receivedOne, writtenOne, typedOne, sentOne])
    · simp only [Prog.Then, hdata, if_false]
      refine (writeLoop_ensures data.length data le_rfl m).bind ?_ ?_
      · intro tr _ m' h
        obtain ⟨rfl, hwrites, ⟨-, hall⟩ | ⟨e, he, -⟩⟩ := h
        · rw [Prog.ensures_pure, List.append_nil]
          refine ⟨rfl, recv_untimed hwrites, .inl ⟨false, rfl, ?_⟩⟩
          exact balanced_of_writes hwrites hall
        · cases he
      · intro tr e m' h
        obtain ⟨rfl, hwrites, ⟨he, -⟩ | ⟨e', -, hpart⟩⟩ := h
        · cases he
        · refine ⟨rfl, recv_untimed hwrites, .inr ⟨e, rfl, ?_⟩⟩
          exact halted_of_writes hwrites hpart

theorem relayLocal_ensures (maxBytes : ℕ) (ready : Bool) (m : Memory) :
    (relayLocal channel terminal.port maxBytes ready).Ensures m
      (BranchEnd terminal channel.channel m) := by
  cases ready with
  | false => exact (Prog.ensures_pure _ _ _).mpr (branchEnd_idle m)
  | true =>
    simp only [relayLocal, LocalTerminalIO.port, LocalTerminalIO.readInput]
    by_cases hzero : maxBytes = 0
    · simp only [hzero, if_true, Prog.ensures_bind', ensures_throw, Prog.Then]
      exact ⟨rfl, by simp, .inr ⟨_, rfl, Balanced.halted (balanced_of_quiet (by simp))⟩⟩
    · simp only [hzero, if_false, Prog.ensures_bind', ensures_ask (.osRead _ _)]
      refine ⟨fun data => ?_, fun e => branchEnd_failed ?_ ⟨rfl, rfl, rfl, rfl⟩ m⟩
      rotate_left
      · exact ⟨rfl, by simp⟩
      by_cases hdata : data = []
      · subst hdata
        refine (Prog.ensures_pure _ _ _).mpr
          ⟨rfl, by simp [Untimed, readingOne], .inl ⟨true, rfl, ?_⟩⟩
        exact balanced_of_quiet (by simp [Quiet, receivedOne, writtenOne, typedOne, sentOne])
      · simp only [Prog.Then, hdata, if_false, InteractiveSshChannel.send, Prog.ensures_bind',
          ensures_ask (.sendall _ _)]
        constructor
        · intro (_ : Unit)
          refine (Prog.ensures_pure _ _ _).mpr
            ⟨rfl, by simp [Untimed, readingOne], .inl ⟨false, rfl, ?_⟩⟩
          exact ⟨flow_of_send hdata maxBytes _,
            by simp [written, received, writtenOne, receivedOne],
            by simp [typed, sent, typedOne, sentOne, hdata]⟩
        · intro e
          refine ⟨rfl, by simp [Untimed, readingOne],
            .inr ⟨e, rfl, flow_of_send hdata maxBytes _, ?_⟩⟩
          exact .inr ⟨data, e, by simp [typed, sent, typedOne, sentOne, hdata], by simp⟩

end Directions

section Loop

variable {terminal : LocalTerminalIO} {channel : InteractiveSshChannel} {deadline : ℚ}
  {m m' : Memory}
  {tr tr' : List PamEvent} {o : PamOutcome RelayOutcome}

/-- A segment in front of which and after which nothing is under way. -/
structure Passed (terminal : LocalTerminalIO) (channel : Handle) (deadline : ℚ)
    (tr : List PamEvent) : Prop where
  balanced : Balanced terminal channel tr
  timed : Timed channel deadline tr
  below : ∀ t ∈ readings tr, t < deadline

/-- How the loop may end: before the deadline by an end of input or a failure, or with a
reading at or past it. -/
structure LoopEnd (terminal : LocalTerminalIO) (channel : Handle) (deadline : ℚ) (m : Memory)
    (tr : List PamEvent) (o : PamOutcome RelayOutcome) (m' : Memory) : Prop where
  memory : m' = m
  timed : Timed channel deadline tr
  outcome : ((∀ t ∈ readings tr, t < deadline) ∧
      ((o = .ret .completed ∧ Balanced terminal channel tr) ∨
        ∃ e, o = .raise e ∧ Halted terminal channel tr)) ∨
    (o = .ret .maxDurationExceeded ∧ Balanced terminal channel tr ∧
      ∃ t ∈ readings tr, deadline ≤ t)

theorem Passed.of_quiet (huntimed : ∀ ev ∈ tr, Untimed ev)
    (hquiet : ∀ ev ∈ tr, Quiet terminal channel.channel ev) :
    Passed terminal channel.channel deadline tr := by
  refine ⟨balanced_of_quiet hquiet, timed_of_untimed huntimed, fun t ht => ?_⟩
  rw [readings_untimed huntimed] at ht
  cases ht

theorem LoopEnd.prepend (hp : Passed terminal channel.channel deadline tr)
    (h : LoopEnd terminal channel.channel deadline m tr' o m') :
    LoopEnd terminal channel.channel deadline m (tr ++ tr') o m' := by
  refine ⟨h.memory, hp.timed.append hp.below h.timed, ?_⟩
  rw [readings_append]
  rcases h.outcome with ⟨hbelow, hend⟩ | ⟨ho, hbalanced, t, ht, hle⟩
  · left
    constructor
    · intro t ht
      rcases List.mem_append.mp ht with ht | ht
      · exact hp.below t ht
      · exact hbelow t ht
    · rcases hend with ⟨ho, hbalanced⟩ | ⟨e, ho, hhalted⟩
      · exact .inl ⟨ho, hp.balanced.append hbalanced⟩
      · exact .inr ⟨e, ho, hp.balanced.append_halted hhalted⟩
  · exact .inr ⟨ho, hp.balanced.append hbalanced, t, List.mem_append_right _ ht, hle⟩

/-- The loop completes or fails after a segment that kept the deadline. -/
theorem Passed.completed (hp : Passed terminal channel.channel deadline tr) :
    LoopEnd terminal channel.channel deadline m tr (.ret .completed) m :=
  ⟨rfl, hp.timed, .inl ⟨hp.below, .inl ⟨rfl, hp.balanced⟩⟩⟩

theorem Passed.failed (hp : Passed terminal channel.channel deadline tr) (e : PyExn) :
    LoopEnd terminal channel.channel deadline m tr (.raise e) m :=
  ⟨rfl, hp.timed, .inl ⟨hp.below, .inr ⟨e, rfl, hp.balanced.halted⟩⟩⟩

theorem reading_quiet (r : Except PyExn ℚ) :
    ∀ ev ∈ [(⟨.monotonic, r⟩ : PamEvent)], Quiet terminal channel.channel ev := by
  intro ev hev
  rw [List.mem_singleton.mp hev]
  exact ⟨rfl, rfl, rfl, rfl⟩

theorem passed_reading {t : ℚ} (ht : t < deadline) :
    Passed terminal channel.channel deadline [⟨.monotonic, .ok t⟩] :=
  ⟨balanced_of_quiet (reading_quiet _), timed_reading _, by simpa [readings, readingOne] using ht⟩

theorem passed_reading_error (e : PyExn) :
    Passed terminal channel.channel deadline [⟨.monotonic, .error e⟩] :=
  ⟨balanced_of_quiet (reading_quiet _), timed_reading _, by simp [readings, readingOne]⟩

theorem passed_select {t : ℚ} (ht : t < deadline) (r : Except PyExn Readable) :
    Passed terminal channel.channel deadline
      [⟨.monotonic, .ok t⟩, ⟨.select (double (deadline - t)), r⟩] := by
  refine ⟨balanced_of_quiet ?_, timed_select ht r, by simpa [readings, readingOne] using ht⟩
  simp [Quiet, receivedOne, writtenOne, typedOne, sentOne]

/-- A reading at or past the deadline ends the loop. -/
theorem loopEnd_expired {t : ℚ} (ht : deadline ≤ t) (m : Memory) :
    LoopEnd terminal channel.channel deadline m [⟨.monotonic, .ok t⟩]
      (.ret .maxDurationExceeded) m :=
  ⟨rfl, timed_reading _, .inr ⟨rfl, balanced_of_quiet (reading_quiet _), t,
    by simp [readings, readingOne], ht⟩⟩

/-- A branch ends the loop, or leaves it to what follows. -/
theorem branch_loopEnd {p : Pam Bool} {f : Bool → Pam RelayOutcome}
    (hp : p.Ensures m (BranchEnd terminal channel.channel m))
    (hf : ∀ b, (f b).Ensures m (LoopEnd terminal channel.channel deadline m)) :
    (p >>= f).Ensures m (LoopEnd terminal channel.channel deadline m) := by
  refine hp.bind ?_ ?_
  · intro tr b m' h
    obtain ⟨rfl, huntimed, ⟨b', hb, hbalanced⟩ | ⟨e, he, -⟩⟩ := h
    · have hpassed : Passed terminal channel.channel deadline tr := by
        refine ⟨hbalanced, timed_of_untimed huntimed, fun t ht => ?_⟩
        rw [readings_untimed huntimed] at ht
        cases ht
      exact (hf b).mono fun tr' o m'' h => h.prepend hpassed
    · cases he
  · intro tr e m' h
    obtain ⟨rfl, huntimed, ⟨b', hb, -⟩ | ⟨e', he, hhalted⟩⟩ := h
    · cases hb
    · refine ⟨rfl, timed_of_untimed huntimed, .inl ⟨fun t ht => ?_, .inr ⟨e, rfl, hhalted⟩⟩⟩
      rw [readings_untimed huntimed] at ht
      cases ht

theorem isClosed_ensures (terminal : LocalTerminalIO) (channel : InteractiveSshChannel)
    (deadline : ℚ) (m : Memory) : channel.isClosed.Ensures m fun tr _ m' =>
      m' = m ∧ Passed terminal channel.channel deadline tr := by
  have hasked : ∀ r, Passed terminal channel.channel deadline
      [⟨.channelClosed channel.channel, r⟩] := by
    refine fun r => Passed.of_quiet ?_ ?_
    · simp [Untimed, readingOne]
    · simp [Quiet, receivedOne, writtenOne, typedOne, sentOne]
  unfold InteractiveSshChannel.isClosed
  rw [Prog.ensures_bind', Prog.ensures_memory]
  cases hclosed : m.channelClosed with
  | true =>
    simp only [Prog.Then, hclosed, if_true, Prog.ensures_pure]
    exact ⟨trivial, Passed.of_quiet (by simp) (by simp)⟩
  | false =>
    simp only [Prog.Then, hclosed, Bool.false_eq_true, if_false]
    exact (ensures_ask _ _ _).mpr ⟨fun b => ⟨rfl, hasked _⟩, fun e => ⟨rfl, hasked _⟩⟩

/-- Every iteration passes its data on and looks at the clock before each wait and after it. -/
theorem relayLoop_ensures (maxBytes fuel : ℕ) (m : Memory) :
    (relayLoop channel terminal.port deadline maxBytes fuel).Ensures m
      (LoopEnd terminal channel.channel deadline m) := by
  induction fuel with
  | zero => exact (Prog.ensures_diverge m _).mpr trivial
  | succ fuel ih =>
    refine (isClosed_ensures terminal channel deadline m).bind ?_ ?_
    · intro tr closed m₁ h
      obtain ⟨rfl, hhead⟩ := h
      refine Prog.Ensures.mono (Q := LoopEnd terminal channel.channel deadline m₁) ?_
        fun tr' o m' h => h.prepend hhead
      cases closed with
      | true => exact (Prog.ensures_pure _ _ _).mpr (Passed.of_quiet (by simp) (by simp)).completed
      | false =>
        simp only [Bool.false_eq_true, if_false]
        rw [Prog.ensures_bind', ensures_ask]
        refine ⟨fun (now : ℚ) => ?_, fun e => (passed_reading_error e).failed e⟩
        by_cases hremaining : double (deadline - now) ≤ 0
        · simp only [Prog.Then, hremaining, if_true, Prog.ensures_pure]
          exact loopEnd_expired (sub_nonpos.mp (double_nonpos_iff.mp hremaining)) m₁
        have hnow : now < deadline := by
          have hleft : 0 < deadline - now := by
            rw [← not_le, ← double_nonpos_iff]
            exact hremaining
          exact sub_pos.mp hleft
        simp only [Prog.Then, hremaining, if_false]
        rw [Prog.ensures_bind', ensures_ask]
        refine ⟨fun (readable : Readable) => ?_, fun e => (passed_select hnow _).failed e⟩
        refine Prog.Ensures.mono (Q := LoopEnd terminal channel.channel deadline m₁) ?_
          fun tr' o m' h => by simpa using h.prepend (passed_select hnow (.ok readable))
        rw [Prog.ensures_bind', ensures_ask]
        refine ⟨fun (later : ℚ) => ?_, fun e => (passed_reading_error e).failed e⟩
        by_cases hexpired : deadline ≤ later
        · simp only [Prog.Then, hexpired, if_true, Prog.ensures_pure]
          exact loopEnd_expired hexpired m₁
        simp only [Prog.Then, hexpired, if_false]
        refine Prog.Ensures.mono (Q := LoopEnd terminal channel.channel deadline m₁) ?_
          fun tr' o m' h => h.prepend (passed_reading (not_le.mp hexpired))
        refine branch_loopEnd (relayRemote_ensures maxBytes _ m₁) fun remoteEnd => ?_
        cases remoteEnd with
        | true =>
          exact (Prog.ensures_pure _ _ _).mpr (Passed.of_quiet (by simp) (by simp)).completed
        | false =>
          simp only [Bool.false_eq_true, if_false]
          refine branch_loopEnd (relayLocal_ensures maxBytes _ m₁) fun localEnd => ?_
          cases localEnd with
          | true =>
            exact (Prog.ensures_pure _ _ _).mpr (Passed.of_quiet (by simp) (by simp)).completed
          | false => simpa using ih
    · intro tr e m₁ h
      obtain ⟨rfl, hhead⟩ := h
      exact hhead.failed e

end Loop

section Relay

variable {terminal : LocalTerminalIO} {channel : InteractiveSshChannel} {deadline : ℚ}
  {m m' : Memory}
  {tr tr' : List PamEvent} {o : PamOutcome RelayOutcome}

/-- The close of the channel, if there is one. -/
def Closes (channel : Handle) (tr : List PamEvent) : Prop :=
  ∀ ev ∈ tr, ev.1 = .closeChannel channel

theorem close_ensures (channel : InteractiveSshChannel) (m : Memory) :
    channel.close.Ensures m fun tr o _ => Closes channel.channel tr ∧
      ∀ e, o = .raise e → ⟨.closeChannel channel.channel, .error e⟩ ∈ tr := by
  unfold InteractiveSshChannel.close
  rw [Prog.ensures_bind', Prog.ensures_memory]
  cases hclosed : m.channelClosed with
  | true =>
    simp only [Prog.Then, hclosed, if_true, Prog.ensures_pure]
    exact ⟨by simp [Closes], by simp⟩
  | false =>
    simp only [Prog.Then, hclosed, Bool.false_eq_true, if_false, Prog.ensures_bind',
      Prog.ensures_modify, ensures_ask (.closeChannel _)]
    constructor
    · intro _
      exact ⟨by simp [Closes], by simp⟩
    · intro e
      exact ⟨by simp [Closes], by simp⟩

theorem Closes.quiet (h : Closes channel.channel tr) :
    ∀ ev ∈ tr, Quiet terminal channel.channel ev ∧ Untimed ev := by
  intro ev hev
  obtain ⟨c, r⟩ := ev
  obtain rfl : c = .closeChannel channel.channel := h _ hev
  exact ⟨⟨rfl, rfl, rfl, rfl⟩, rfl, fun _ => nofun⟩

/-- The close may come after the deadline. -/
theorem Timed.append_close (h : Timed channel.channel deadline tr)
    (hclose : Closes channel.channel tr') : Timed channel.channel deadline (tr ++ tr') := by
  constructor
  · refine (guarded_append _ _).mpr
      ⟨h.waits, Guarded.of_forall fun ev hev pre timeout hselect => ?_⟩
    rw [hclose ev hev] at hselect
    cases hselect
  · refine (guarded_append _ _).mpr ⟨h.inTime, Guarded.of_forall fun ev hev pre hother => ?_⟩
    exact absurd (hclose ev hev) hother

/-- What a run of the relay has done when it ends: what it passed on, how it kept its
deadline, and how it ended once a reading was at or past it. -/
structure RelayEnd (terminal : LocalTerminalIO) (channel : Handle) (deadline : ℚ)
    (tr : List PamEvent) (o : PamOutcome RelayOutcome) : Prop where
  halted : Halted terminal channel tr
  timed : Timed channel deadline tr
  balanced : ∀ outcome, o = .ret outcome → Balanced terminal channel tr
  expired : (∃ t ∈ readings tr, deadline ≤ t) → o = .ret .maxDurationExceeded ∨
    ∃ e, o = .raise e ∧ ⟨.closeChannel channel, .error e⟩ ∈ tr

theorem LoopEnd.relayEnd (h : LoopEnd terminal channel.channel deadline m tr o m') :
    RelayEnd terminal channel.channel deadline tr o := by
  rcases h.outcome with ⟨hbelow, hend⟩ | ⟨rfl, hbalanced, -⟩
  · have hearly : ¬ ∃ t ∈ readings tr, deadline ≤ t := by
      intro ⟨t, ht, hle⟩
      exact absurd (hbelow t ht) (not_lt.mpr hle)
    rcases hend with ⟨rfl, hbalanced⟩ | ⟨e, rfl, hhalted⟩
    · exact ⟨hbalanced.halted, h.timed, fun _ _ => hbalanced, fun hlate => absurd hlate hearly⟩
    · exact ⟨hhalted, h.timed, nofun, fun hlate => absurd hlate hearly⟩
  · exact ⟨hbalanced.halted, h.timed, fun _ _ => hbalanced, fun _ => .inl rfl⟩

/-- The handler of the relay replaces one exception by another. -/
theorem LoopEnd.translated {e : PyExn} (e' : PyExn)
    (h : LoopEnd terminal channel.channel deadline m tr (.raise e) m') :
    LoopEnd terminal channel.channel deadline m tr (.raise e') m' := by
  refine ⟨h.memory, h.timed, ?_⟩
  rcases h.outcome with ⟨hbelow, ⟨ho, -⟩ | ⟨-, -, hhalted⟩⟩ | ⟨ho, -, -⟩
  · cases ho
  · exact .inl ⟨hbelow, .inr ⟨e', rfl, hhalted⟩⟩
  · cases ho

theorem RelayEnd.closed (h : RelayEnd terminal channel.channel deadline tr o)
    (hclose : Closes channel.channel tr') :
    RelayEnd terminal channel.channel deadline (tr ++ tr') o := by
  have hboth : ∀ ev ∈ tr', Quiet terminal channel.channel ev ∧ Untimed ev := hclose.quiet
  have hquiet : ∀ ev ∈ tr', Quiet terminal channel.channel ev := fun ev hev => (hboth ev hev).1
  have huntimed : ∀ ev ∈ tr', Untimed ev := fun ev hev => (hboth ev hev).2
  refine ⟨h.halted.append_quiet hquiet, h.timed.append_close hclose, fun outcome ho => ?_,
    fun hlate => ?_⟩
  · exact (h.balanced outcome ho).append (balanced_of_quiet hquiet)
  · rw [readings_append, readings_untimed huntimed, List.append_nil] at hlate
    rcases h.expired hlate with ho | ⟨e, ho, hmem⟩
    · exact .inl ho
    · exact .inr ⟨e, ho, List.mem_append_left _ hmem⟩

theorem RelayEnd.close_raised (h : RelayEnd terminal channel.channel deadline tr o)
    (hclose : Closes channel.channel tr') {e : PyExn}
    (hmem : ⟨.closeChannel channel.channel, .error e⟩ ∈ tr') :
    RelayEnd terminal channel.channel deadline (tr ++ tr') (.raise e) := by
  have hend := h.closed hclose
  exact ⟨hend.halted, hend.timed, nofun, fun _ => .inr ⟨e, rfl, List.mem_append_right _ hmem⟩⟩

/-- The loop with its handler and its cleanup. -/
theorem guardedLoop_ensures (maxBytes fuel : ℕ) (m : Memory) :
    (Prog.tryFinally
      (exceptException (relayLoop channel terminal.port deadline maxBytes fuel)
        fun _ => throw (raised .sshChannelError (py "interactive terminal relay failed")))
      channel.close).Ensures m fun tr o _ => RelayEnd terminal channel.channel deadline tr o := by
  refine Prog.Ensures.tryFinally
    (P := fun tr o _ => RelayEnd terminal channel.channel deadline tr o) ?_ ?_
  · refine ensures_exceptException (relayLoop_ensures maxBytes fuel m) ?_ ?_ ?_
    · exact fun tr a m' h => h.relayEnd
    · exact fun tr e m' h _ => h.relayEnd
    · intro tr e m' h _
      rw [ensures_throw, List.append_nil]
      exact (h.translated _).relayEnd
  · intro tr o m' h
    refine (close_ensures channel m').mono fun tr' o' m'' hclose => ?_
    cases o' with
    | ret _ => exact h.closed hclose.1
    | raise e => exact h.close_raised hclose.1 (hclose.2 e rfl)

/-- What rounding may add to a time after `start`. -/
def slack (start duration : ℚ) : ℚ := (1 / 2) ^ 52 * (|start| + 2 * duration)

/-- The deadline is the first reading and the whole duration, whatever happens later.
`rest` is the run after that reading. -/
structure OnTime (channel : Handle) (maxDuration : ℤ) (start : ℚ) (rest : List PamEvent)
    (o : PamOutcome RelayOutcome) : Prop where
  deadline : |deadlineFrom start maxDuration - (start + maxDuration / 1000000)| ≤
    slack start (maxDuration / 1000000)
  timed : Timed channel (deadlineFrom start maxDuration) rest
  timeouts : ∀ timeout r, ⟨.select timeout, r⟩ ∈ rest → 0 < timeout ∧
    timeout ≤ maxDuration / 1000000 + slack start (maxDuration / 1000000)
  expired : (∃ t ∈ readings rest, deadlineFrom start maxDuration ≤ t) →
    o = .ret .maxDurationExceeded ∨ ∃ e, o = .raise e ∧ ⟨.closeChannel channel, .error e⟩ ∈ rest

section Rounding

variable {maxDuration : ℤ} (hpositive : 0 < maxDuration) (start : ℚ)
include hpositive

theorem duration_pos : (0 : ℚ) < maxDuration / 1000000 := by
  have hcast : (0 : ℚ) < maxDuration := by exact_mod_cast hpositive
  exact div_pos hcast (by norm_num)

/-- Both roundings of the deadline together. -/
theorem deadlineFrom_near : |deadlineFrom start maxDuration - (start + maxDuration / 1000000)| ≤
    (1 / 2) ^ 53 * |start| +
      (2 * (1 / 2) ^ 53 + ((1 / 2) ^ 53) ^ 2) * (maxDuration / 1000000) := by
  have hd := duration_pos hpositive
  have hseconds : |totalSeconds maxDuration - maxDuration / 1000000| ≤
      (1 / 2) ^ 53 * (maxDuration / 1000000) := by
    have hnear := double_near (maxDuration / 1000000 : ℚ)
    rwa [abs_of_pos hd] at hnear
  have hsum := double_near (start + totalSeconds maxDuration)
  have hsize : |start + totalSeconds maxDuration| ≤
      |start| + (1 + (1 / 2) ^ 53) * (maxDuration / 1000000) := by
    refine (abs_add_le _ _).trans (add_le_add_right ?_ _)
    have hpos : 0 < totalSeconds maxDuration := double_pos hd
    rw [abs_of_pos hpos]
    exact double_le hd.le
  have hscaled := mul_le_mul_of_nonneg_left hsize (show (0 : ℚ) ≤ (1 / 2) ^ 53 by norm_num)
  calc |deadlineFrom start maxDuration - (start + maxDuration / 1000000)|
      = |(deadlineFrom start maxDuration - (start + totalSeconds maxDuration)) +
          (totalSeconds maxDuration - maxDuration / 1000000)| := by ring_nf
    _ ≤ |deadlineFrom start maxDuration - (start + totalSeconds maxDuration)| +
          |totalSeconds maxDuration - maxDuration / 1000000| := abs_add_le _ _
    _ ≤ (1 / 2) ^ 53 * (|start| + (1 + (1 / 2) ^ 53) * (maxDuration / 1000000)) +
          (1 / 2) ^ 53 * (maxDuration / 1000000) := add_le_add (hsum.trans hscaled) hseconds
    _ = (1 / 2) ^ 53 * |start| +
          (2 * (1 / 2) ^ 53 + ((1 / 2) ^ 53) ^ 2) * (maxDuration / 1000000) := by ring

theorem deadlineFrom_slack : |deadlineFrom start maxDuration - (start + maxDuration / 1000000)| ≤
    slack start (maxDuration / 1000000) := by
  have hd := duration_pos hpositive
  have hstart := abs_nonneg start
  refine (deadlineFrom_near hpositive start).trans ?_
  unfold slack
  norm_num
  linarith

/-- A wait that begins after the first reading. -/
theorem timeout_slack {t : ℚ} (hstart : start ≤ t) (ht : t < deadlineFrom start maxDuration) :
    double (deadlineFrom start maxDuration - t) ≤
      maxDuration / 1000000 + slack start (maxDuration / 1000000) := by
  have hd := duration_pos hpositive
  have habs := abs_nonneg start
  have hnear := (abs_le.mp (deadlineFrom_near hpositive start)).2
  have hleft : deadlineFrom start maxDuration - t ≤ maxDuration / 1000000 +
      ((1 / 2) ^ 53 * |start| +
        (2 * (1 / 2) ^ 53 + ((1 / 2) ^ 53) ^ 2) * (maxDuration / 1000000)) := by
    linarith
  refine (double_le (sub_nonneg.mpr ht.le)).trans ?_
  refine (mul_le_mul_of_nonneg_left hleft (by norm_num)).trans ?_
  unfold slack
  norm_num
  linarith

end Rounding

theorem relayTerminal_ensures (fuel maxBytes : ℕ) {maxDuration : ℤ} (hpositive : 0 < maxDuration)
    (m : Memory) :
    (relayTerminal fuel channel terminal.port maxDuration maxBytes).Ensures m fun tr o _ =>
      (∃ e, tr = [⟨.monotonic, .error e⟩] ∧ o = .raise e) ∨
      ∃ start rest, tr = ⟨.monotonic, .ok start⟩ :: rest ∧
        RelayEnd terminal channel.channel (deadlineFrom start maxDuration) rest o := by
  simp only [relayTerminal, not_le.mpr hpositive, if_false]
  rw [Prog.ensures_bind', ensures_ask]
  refine ⟨fun (start : ℚ) => ?_, fun e => .inl ⟨e, rfl, rfl⟩⟩
  refine (guardedLoop_ensures maxBytes fuel m).mono fun tr o m' h => ?_
  exact .inr ⟨start, tr, rfl, h⟩

/-- With a clock that never goes back, no wait is longer than the whole duration. -/
theorem RelayEnd.onTime {maxDuration : ℤ} {start : ℚ} (hpositive : 0 < maxDuration)
    (h : RelayEnd terminal channel.channel (deadlineFrom start maxDuration) tr o)
    (hclock : ∀ t ∈ readings tr, start ≤ t) : OnTime channel.channel maxDuration start tr o := by
  refine ⟨deadlineFrom_slack hpositive start, h.timed, fun timeout r hmem => ?_, h.expired⟩
  obtain ⟨pre, post, heq⟩ := List.append_of_mem hmem
  obtain ⟨before, t, hpre, ht, rfl⟩ := h.timed.waits pre _ post heq timeout rfl
  have hreading : t ∈ readings tr := by
    rw [heq, hpre, readings_append, readings_append]
    simp [readings, readingOne]
  exact ⟨double_pos (sub_pos.mpr ht), timeout_slack hpositive start (hclock t hreading) ht⟩

/-- The relay passes both directions on in order until its total deadline. -/
theorem relay_terminal_faithful {fuel maxBytes : ℕ} {maxDuration : ℤ} (hpositive : 0 < maxDuration)
    (hrun : (relayTerminal fuel channel terminal.port maxDuration maxBytes).Run m tr o m')
    (hclock : (readings tr).Pairwise (· ≤ ·)) :
    ((∃ e, tr = [⟨.monotonic, .error e⟩] ∧ o = .raise e) ∨
      ∃ start rest, tr = ⟨.monotonic, .ok start⟩ :: rest ∧
        OnTime channel.channel maxDuration start rest o) ∧
    Halted terminal channel.channel tr ∧
    ∀ outcome, o = .ret outcome → Balanced terminal channel.channel tr := by
  rcases relayTerminal_ensures fuel maxBytes hpositive m tr o m' hrun with
    ⟨e, rfl, rfl⟩ | ⟨start, rest, rfl, h⟩
  · exact ⟨.inl ⟨e, rfl, rfl⟩, (balanced_of_quiet (reading_quiet _)).halted, nofun⟩
  · have hreading : Balanced terminal channel.channel [⟨.monotonic, .ok start⟩] :=
      balanced_of_quiet (reading_quiet _)
    have hlater : ∀ t ∈ readings rest, start ≤ t := (List.pairwise_cons.mp hclock).1
    exact ⟨.inr ⟨start, rest, rfl, h.onTime hpositive hlater⟩, hreading.append_halted h.halted,
      fun outcome ho => hreading.append (h.balanced outcome ho)⟩

end Relay

section Example

/-- A busy peer, a busy user, and writes of one byte at a time. -/
def busyWorld (past : List PamEvent) : (c : PamCall) → Reply pamSignature c
  | .monotonic => .ok (past.length : ℚ)
  | .channelClosed _ => .ok false
  | .select _ => .ok ⟨true, true⟩
  | .recv _ _ => .ok [97, 98]
  | .osWrite _ _ => .ok (1 : ℕ)
  | .osRead _ _ => .ok [120]
  | .sendall _ _ => .ok ()
  | .closeChannel _ => .ok ()
  | _ => .error (raised .otherException [])

def busyRun : Option (List PamEvent × PamOutcome RelayOutcome × Memory) :=
  (relayTerminal 2 ⟨4⟩ ( LocalTerminalIO.port ⟨0, 1⟩) 10000000).exec busyWorld []
    ⟨none, false, none, false, false, false⟩

def returned : PamOutcome RelayOutcome → Option RelayOutcome
  | .ret outcome => some outcome
  | .raise _ => none

/-- What can be seen of the run. -/
theorem busyRun_observed : (busyRun.map fun out => (returned out.2.1, written ⟨0, 1⟩ out.1,
    sent 4 out.1, readings out.1)) =
      some (some .maxDurationExceeded, [97, 98], [[120]], [0, 2, 4, 11]) := by
  decide +kernel

theorem relay_terminal_faithful_example : ∃ tr o m', busyRun = some (tr, o, m') ∧
    returned o = some .maxDurationExceeded ∧ written ⟨0, 1⟩ tr = [97, 98] ∧ sent 4 tr = [[120]] ∧
    ((∃ e, tr = [⟨.monotonic, .error e⟩] ∧ o = .raise e) ∨
      ∃ start rest, tr = ⟨.monotonic, .ok start⟩ :: rest ∧
        OnTime 4 10000000 start rest o) ∧
    Halted ⟨0, 1⟩ 4 tr ∧ ∀ outcome, o = .ret outcome → Balanced ⟨0, 1⟩ 4 tr := by
  obtain ⟨⟨tr, o, m'⟩, hexec, hobserved⟩ := Option.map_eq_some_iff.mp busyRun_observed
  simp only [Prod.mk.injEq] at hobserved
  obtain ⟨hreturned, hwritten, hsent, hreadings⟩ := hobserved
  have hclock : (readings tr).Pairwise (· ≤ ·) := by
    rw [hreadings]
    decide +kernel
  exact ⟨tr, o, m', hexec, hreturned, hwritten, hsent, relay_terminal_faithful
    (by decide) (Prog.run_exec _ _ _ _ _ _ _ hexec) hclock⟩

/-- A clock that stands still at `64181.80154762`, and a peer that ends at once. -/
def stillWorld (_ : List PamEvent) : (c : PamCall) → Reply pamSignature c
  | .monotonic => .ok (8821079636652483 / 2 ^ 37 : ℚ)
  | .channelClosed _ => .ok false
  | .select _ => .ok ⟨false, true⟩
  | .recv _ _ => .ok []
  | .closeChannel _ => .ok ()
  | _ => .error (raised .otherException [])

def stillRun : Option (List PamEvent × PamOutcome RelayOutcome × Memory) :=
  (relayTerminal 1 ⟨4⟩ ( LocalTerminalIO.port ⟨0, 1⟩) 1800000000).exec stillWorld []
    ⟨none, false, none, false, false, false⟩

def timeoutOne : PamEvent → Option ℚ
  | ⟨.select timeout, _⟩ => some timeout
  | _ => none

theorem stillRun_observed : (stillRun.map fun out => (readings out.1, out.1.filterMap timeoutOne)) =
    some (List.replicate 3 (8821079636652483 / 2 ^ 37), [1800 + 1 / 2 ^ 37]) := by
  decide +kernel

/-- The rounded deadline leaves more than half an hour to the first wait of a relay of half an
hour, and a late clock reading absorbs half a second. -/
theorem wait_exceeds_duration : (∃ tr o m',
    (relayTerminal 1 ⟨4⟩ ( LocalTerminalIO.port ⟨0, 1⟩) 1800000000).Run
      ⟨none, false, none, false, false, false⟩ tr o m' ∧
    (readings tr).Pairwise (· ≤ ·) ∧
    ∃ timeout r, ⟨.select timeout, r⟩ ∈ tr ∧ (1800000000 : ℚ) / 1000000 < timeout) ∧
    deadlineFrom (10 ^ 16) 500000 = 10 ^ 16 := by
  refine ⟨?_, by decide +kernel⟩
  obtain ⟨⟨tr, o, m'⟩, hexec, hobserved⟩ := Option.map_eq_some_iff.mp stillRun_observed
  simp only [Prod.mk.injEq] at hobserved
  obtain ⟨hreadings, htimeouts⟩ := hobserved
  refine ⟨tr, o, m', Prog.run_exec _ _ _ _ _ _ _ hexec, ?_, ?_⟩
  · rw [hreadings]
    exact List.pairwise_replicate.mpr (.inr le_rfl)
  · have hmem : (1800 + 1 / 2 ^ 37 : ℚ) ∈ tr.filterMap timeoutOne := by
      rw [htimeouts]
      exact List.mem_singleton_self _
    obtain ⟨ev, hev, hone⟩ := List.mem_filterMap.mp hmem
    obtain ⟨timeout, r, rfl⟩ : ∃ timeout r, ev = ⟨.select timeout, r⟩ := by
      unfold timeoutOne at hone
      split at hone
      · exact ⟨_, _, rfl⟩
      · cases hone
    cases hone
    exact ⟨_, r, hev, by norm_num⟩

end Example

end PamMvp.RelayFidelity
