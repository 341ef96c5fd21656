import PamMvp.InteractionPrograms
import Mathlib.Logic.Function.Basic

/-!
# Programs over a shared state

A server answers the calls of programs without memory and changes its own state.
A program runs on the server alone, or parties of a pool run on it with their
calls in any order, and a party may crash between two calls. A discipline says
which calls a program makes in which phase. An invariant that relates the phase
of each party to the shared state is proved once for each kind of call, and then
holds over all interleavings.
-/
namespace PamMvp.SharedPrograms
open InteractionPrograms

variable {S : Signature} {α β D W τ Φ : Type}

/-- The answers that the server may give to a call, and its state after each. -/
abbrev Server (S : Signature) (D : Type) : Type := D → (c : S.Call) → Reply S c → D → Prop

/-- The runs of one program that has the server for itself. -/
def RunsOn (serve : Server S D) : Prog S Unit α → D → Outcome S α → D → Prop
  | .ret a, d, o, d' => o = .ret a ∧ d' = d
  | .raise e, d, o, d' => o = .raise e ∧ d' = d
  | .diverge, _, _, _ => False
  | .get k, d, o, d' => RunsOn serve (k ()) d o d'
  | .set _ k, d, o, d' => RunsOn serve k d o d'
  | .call c k, d, o, d' => ∃ r d₁, serve d c r d₁ ∧ RunsOn serve (k r) d₁ o d'

/-- The run against a server that has one answer to every call. -/
def execOn (answer : D → (c : S.Call) → Reply S c × D) :
    Prog S Unit α → D → Option (Outcome S α × D)
  | .ret a, d => some (.ret a, d)
  | .raise e, d => some (.raise e, d)
  | .diverge, _ => none
  | .get k, d => execOn answer (k ()) d
  | .set _ k, d => execOn answer k d
  | .call c k, d => execOn answer (k (answer d c).1) (answer d c).2

theorem runsOn_execOn {serve : Server S D} {answer : D → (c : S.Call) → Reply S c × D}
    (hanswer : ∀ d c, serve d c (answer d c).1 (answer d c).2) {p : Prog S Unit α} {d d' : D}
    {o : Outcome S α} (h : execOn answer p d = some (o, d')) : RunsOn serve p d o d' := by
  induction p generalizing d with
  | ret a =>
    cases h
    exact ⟨rfl, rfl⟩
  | raise e =>
    cases h
    exact ⟨rfl, rfl⟩
  | diverge => cases h
  | get k ih => exact ih () h
  | set m k ih => exact ih h
  | call c k ih => exact ⟨_, _, hanswer d c, ih _ h⟩

/-- A server with more answers has more runs. -/
theorem RunsOn.mono {serve serve' : Server S D} {p : Prog S Unit α} {d d' : D} {o : Outcome S α}
    (hmono : ∀ d c r d', serve d c r d' → serve' d c r d') (h : RunsOn serve p d o d') :
    RunsOn serve' p d o d' := by
  induction p generalizing d with
  | ret a => exact h
  | raise e => exact h
  | diverge => exact h
  | get k ih => exact ih () h
  | set m k ih => exact ih h
  | call c k ih =>
    obtain ⟨r, d₁, hserve, hrest⟩ := h
    exact ⟨r, d₁, hmono _ _ _ _ hserve, ih r hrest⟩

section Returns

variable {serve : Server S D} {d d' : D}

theorem runsOn_ret_iff (a b : α) :
    RunsOn serve (.ret a) d (.ret b) d' ↔ a = b ∧ d' = d := by
  simp [RunsOn, eq_comm]

theorem runsOn_perform_ret (c : S.Call) (a : S.Answer c) :
    RunsOn serve (Prog.perform c) d (.ret a) d' ↔ serve d c (.ok a) d' := by
  constructor
  · intro h
    obtain ⟨r, d₁, hserve, hrest⟩ := h
    cases r with
    | ok b =>
      obtain ⟨rfl, rfl⟩ := (runsOn_ret_iff b a).mp hrest
      exact hserve
    | error e => cases hrest.1
  · intro h
    exact ⟨.ok a, d', h, rfl, rfl⟩

theorem runsOn_ofReply_ret (r : Except S.Exn α) (a : α) :
    RunsOn serve (Prog.ofReply r) d (.ret a) d' ↔ r = .ok a ∧ d' = d := by
  cases r with
  | ok b => simpa [Prog.ofReply] using runsOn_ret_iff b a
  | error e => simp [Prog.ofReply, RunsOn]

theorem runsOn_bind_ret (p : Prog S Unit α) (f : α → Prog S Unit β) (b : β) :
    RunsOn serve (p >>= f) d (.ret b) d' ↔
      ∃ a d₁, RunsOn serve p d (.ret a) d₁ ∧ RunsOn serve (f a) d₁ (.ret b) d' := by
  induction p generalizing d with
  | ret a =>
    constructor
    · intro h
      exact ⟨a, d, ⟨rfl, rfl⟩, h⟩
    · intro h
      obtain ⟨_, _, hret, h⟩ := h
      obtain ⟨rfl, rfl⟩ := (runsOn_ret_iff a _).mp hret
      exact h
  | raise e =>
    constructor
    · intro h
      cases h.1
    · intro h
      obtain ⟨_, _, hret, -⟩ := h
      cases hret.1
  | diverge =>
    constructor
    · exact False.elim
    · intro h
      obtain ⟨_, _, hret, -⟩ := h
      exact hret
  | get k ih => exact ih ()
  | set m k ih => exact ih
  | call c k ih =>
    constructor
    · intro h
      obtain ⟨r, d₁, hserve, hrest⟩ := h
      obtain ⟨a, d₂, hp, hf⟩ := (ih r).mp hrest
      exact ⟨a, d₂, ⟨r, d₁, hserve, hp⟩, hf⟩
    · intro h
      obtain ⟨a, d₂, ⟨r, d₁, hserve, hp⟩, hf⟩ := h
      exact ⟨r, d₁, hserve, (ih r).mpr ⟨a, d₂, hp, hf⟩⟩

/-- A handler that never returns does not add returning runs. -/
theorem runsOn_tryExcept_ret (p : Prog S Unit α) {h : S.Exn → Prog S Unit α}
    (hh : ∀ e d a d', ¬ RunsOn serve (h e) d (.ret a) d') (a : α) :
    RunsOn serve (p.tryExcept h) d (.ret a) d' ↔ RunsOn serve p d (.ret a) d' := by
  induction p generalizing d with
  | ret b => exact Iff.rfl
  | raise e =>
    constructor
    · intro hrun
      exact absurd hrun (hh e d a d')
    · intro hrun
      cases hrun.1
  | diverge => exact Iff.rfl
  | get k ih => exact ih ()
  | set m k ih => exact ih
  | call c k ih => exact exists_congr fun r => exists_congr fun d₁ => and_congr_right fun _ => ih r

theorem runsOn_tryFinally_ret (p : Prog S Unit α) (fin : Prog S Unit Unit) (a : α) :
    RunsOn serve (p.tryFinally fin) d (.ret a) d' ↔
      ∃ d₁, RunsOn serve p d (.ret a) d₁ ∧ RunsOn serve fin d₁ (.ret ()) d' := by
  induction p generalizing d with
  | ret b =>
    constructor
    · intro h
      obtain ⟨u, d₁, hfin, hrest⟩ := (runsOn_bind_ret fin _ a).mp h
      obtain ⟨rfl, rfl⟩ := (runsOn_ret_iff b a).mp hrest
      exact ⟨d, ⟨rfl, rfl⟩, hfin⟩
    · intro h
      obtain ⟨d₁, hret, hfin⟩ := h
      obtain ⟨rfl, rfl⟩ := (runsOn_ret_iff b a).mp hret
      exact (runsOn_bind_ret fin _ b).mpr ⟨(), d', hfin, rfl, rfl⟩
  | raise e =>
    constructor
    · intro h
      obtain ⟨_, _, -, hrest⟩ := (runsOn_bind_ret fin _ a).mp h
      cases hrest.1
    · intro h
      obtain ⟨_, hret, -⟩ := h
      cases hret.1
  | diverge =>
    constructor
    · exact False.elim
    · intro h
      obtain ⟨_, hret, -⟩ := h
      exact hret
  | get k ih => exact ih ()
  | set m k ih => exact ih
  | call c k ih =>
    constructor
    · intro h
      obtain ⟨r, d₁, hserve, hrest⟩ := h
      obtain ⟨d₂, hp, hfin⟩ := (ih r).mp hrest
      exact ⟨d₂, ⟨r, d₁, hserve, hp⟩, hfin⟩
    · intro h
      obtain ⟨d₂, ⟨r, d₁, hserve, hp⟩, hfin⟩ := h
      exact ⟨r, d₁, hserve, (ih r).mpr ⟨d₂, hp, hfin⟩⟩

end Returns

section Postconditions

variable {serve : Server S D} {answer : D → (c : S.Call) → Reply S c × D} {d : D}

/-- Every run of the program on the server ends in `Q`. -/
def EnsuresOn (serve : Server S D) (p : Prog S Unit α) (d : D) (Q : Outcome S α → D → Prop) :
    Prop :=
  ∀ o d', RunsOn serve p d o d' → Q o d'

theorem EnsuresOn.mono {p : Prog S Unit α} {Q R : Outcome S α → D → Prop}
    (h : EnsuresOn serve p d Q) (hQR : ∀ o d', Q o d' → R o d') : EnsuresOn serve p d R :=
  fun o d' hrun => hQR o d' (h o d' hrun)

theorem ensuresOn_ret (a : α) {Q : Outcome S α → D → Prop} (h : Q (.ret a) d) :
    EnsuresOn serve (.ret a) d Q := by
  intro o d' hrun
  obtain ⟨rfl, rfl⟩ := hrun
  exact h

theorem ensuresOn_raise (e : S.Exn) {Q : Outcome S α → D → Prop} (h : Q (.raise e) d) :
    EnsuresOn serve (.raise e) d Q := by
  intro o d' hrun
  obtain ⟨rfl, rfl⟩ := hrun
  exact h

theorem ensuresOn_ofReply {r : Except S.Exn α} {Q : Outcome S α → D → Prop}
    (hok : ∀ a, r = .ok a → Q (.ret a) d) (herror : ∀ e, r = .error e → Q (.raise e) d) :
    EnsuresOn serve (Prog.ofReply r) d Q := by
  cases r with
  | ok a => exact ensuresOn_ret a (hok a rfl)
  | error e => exact ensuresOn_raise e (herror e rfl)

theorem ensuresOn_perform {c : S.Call} {Q : Outcome S (S.Answer c) → D → Prop}
    (hok : ∀ a d', serve d c (.ok a) d' → Q (.ret a) d')
    (herror : ∀ e d', serve d c (.error e) d' → Q (.raise e) d') :
    EnsuresOn serve (Prog.perform c) d Q := by
  intro o d' hrun
  obtain ⟨r, d₁, hserve, hrest⟩ := hrun
  cases r with
  | ok a =>
    obtain ⟨rfl, rfl⟩ := hrest
    exact hok a _ hserve
  | error e =>
    obtain ⟨rfl, rfl⟩ := hrest
    exact herror e _ hserve

theorem EnsuresOn.bind {p : Prog S Unit α} {f : α → Prog S Unit β} {P : Outcome S α → D → Prop}
    {Q : Outcome S β → D → Prop} (hp : EnsuresOn serve p d P)
    (hret : ∀ a d', P (.ret a) d' → EnsuresOn serve (f a) d' Q)
    (hraise : ∀ e d', P (.raise e) d' → Q (.raise e) d') : EnsuresOn serve (p >>= f) d Q := by
  induction p generalizing d with
  | ret a => exact hret a d (hp _ _ ⟨rfl, rfl⟩)
  | raise e => exact ensuresOn_raise e (hraise e d (hp _ _ ⟨rfl, rfl⟩))
  | diverge => exact fun _ _ hrun => hrun.elim
  | get k ih => exact ih () hp
  | set m k ih => exact ih hp
  | call c k ih =>
    intro o d' hrun
    obtain ⟨r, d₁, hserve, hrest⟩ := hrun
    exact ih r (fun o d' h => hp o d' ⟨r, d₁, hserve, h⟩) o d' hrest

theorem EnsuresOn.tryExcept {p : Prog S Unit α} {h : S.Exn → Prog S Unit α}
    {P Q : Outcome S α → D → Prop} (hp : EnsuresOn serve p d P)
    (hret : ∀ a d', P (.ret a) d' → Q (.ret a) d')
    (hraise : ∀ e d', P (.raise e) d' → EnsuresOn serve (h e) d' Q) :
    EnsuresOn serve (p.tryExcept h) d Q := by
  induction p generalizing d with
  | ret a => exact ensuresOn_ret a (hret a d (hp _ _ ⟨rfl, rfl⟩))
  | raise e => exact hraise e d (hp _ _ ⟨rfl, rfl⟩)
  | diverge => exact fun _ _ hrun => hrun.elim
  | get k ih => exact ih () hp
  | set m k ih => exact ih hp
  | call c k ih =>
    intro o d' hrun
    obtain ⟨r, d₁, hserve, hrest⟩ := hrun
    exact ih r (fun o d' h => hp o d' ⟨r, d₁, hserve, h⟩) o d' hrest

theorem EnsuresOn.tryFinally {p : Prog S Unit α} {fin : Prog S Unit Unit}
    {P Q : Outcome S α → D → Prop} (hp : EnsuresOn serve p d P)
    (hfin : ∀ o d', P o d' → EnsuresOn serve fin d' fun o' d'' => match o' with
      | .ret _ => Q o d''
      | .raise e => Q (.raise e) d'') : EnsuresOn serve (p.tryFinally fin) d Q := by
  induction p generalizing d with
  | ret a =>
    refine (hfin _ d (hp _ _ ⟨rfl, rfl⟩)).bind (fun _ d' h => ensuresOn_ret a h) fun _ _ h => h
  | raise e =>
    refine (hfin _ d (hp _ _ ⟨rfl, rfl⟩)).bind (fun _ d' h => ensuresOn_raise e h) fun _ _ h => h
  | diverge => exact fun _ _ hrun => hrun.elim
  | get k ih => exact ih () hp
  | set m k ih => exact ih hp
  | call c k ih =>
    intro o d' hrun
    obtain ⟨r, d₁, hserve, hrest⟩ := hrun
    exact ih r (fun o d' h => hp o d' ⟨r, d₁, hserve, h⟩) o d' hrest

section Execution

variable {p : Prog S Unit α} {d' : D} {a : α} {e : S.Exn}

theorem execOn_perform {c : S.Call} {b : S.Answer c} (h : answer d c = (.ok b, d')) :
    execOn answer (Prog.perform c) d = some (.ret b, d') := by
  simp only [Prog.perform, execOn, h]
  rfl

theorem execOn_perform_raise {c : S.Call} (h : answer d c = (.error e, d')) :
    execOn answer (Prog.perform c) d = some (.raise e, d') := by
  simp only [Prog.perform, execOn, h]
  rfl

theorem execOn_ofReply (r : Except S.Exn α) (f : α → Prog S Unit β) :
    execOn answer (Prog.ofReply r >>= f) d = match r with
      | .ok a => execOn answer (f a) d
      | .error e => some (.raise e, d) := by
  cases r <;> rfl

theorem execOn_bind (f : α → Prog S Unit β) (hp : execOn answer p d = some (.ret a, d')) :
    execOn answer (p >>= f) d = execOn answer (f a) d' := by
  induction p generalizing d with
  | ret b =>
    cases hp
    rfl
  | raise e => cases hp
  | diverge => cases hp
  | get k ih => exact ih () hp
  | set m k ih => exact ih hp
  | call c k ih => exact ih _ hp

theorem execOn_bind_raise (f : α → Prog S Unit β)
    (hp : execOn answer p d = some (.raise e, d')) :
    execOn answer (p >>= f) d = some (.raise e, d') := by
  induction p generalizing d with
  | ret b => cases hp
  | raise e' =>
    cases hp
    rfl
  | diverge => cases hp
  | get k ih => exact ih () hp
  | set m k ih => exact ih hp
  | call c k ih => exact ih _ hp

theorem execOn_tryExcept (h : S.Exn → Prog S Unit α)
    (hp : execOn answer p d = some (.ret a, d')) :
    execOn answer (p.tryExcept h) d = some (.ret a, d') := by
  induction p generalizing d with
  | ret b => exact hp
  | raise e => cases hp
  | diverge => cases hp
  | get k ih => exact ih () hp
  | set m k ih => exact ih hp
  | call c k ih => exact ih _ hp

theorem execOn_tryExcept_raise (h : S.Exn → Prog S Unit α)
    (hp : execOn answer p d = some (.raise e, d')) :
    execOn answer (p.tryExcept h) d = execOn answer (h e) d' := by
  induction p generalizing d with
  | ret b => cases hp
  | raise e' =>
    cases hp
    rfl
  | diverge => cases hp
  | get k ih => exact ih () hp
  | set m k ih => exact ih hp
  | call c k ih => exact ih _ hp

theorem execOn_tryFinally {fin : Prog S Unit Unit} {s d'' : D} {o : Outcome S α}
    (hp : execOn answer p d = some (o, s)) (hfin : execOn answer fin s = some (.ret (), d'')) :
    execOn answer (p.tryFinally fin) d = some (o, d'') := by
  induction p generalizing d with
  | ret b =>
    cases hp
    exact execOn_bind _ hfin
  | raise e' =>
    cases hp
    exact execOn_bind _ hfin
  | diverge => cases hp
  | get k ih => exact ih () hp
  | set m k ih => exact ih hp
  | call c k ih => exact ih _ hp

/-- An exception of the cleanup replaces the outcome of the body. -/
theorem execOn_tryFinally_raise {fin : Prog S Unit Unit} {d'' : D} {o : Outcome S α}
    (hp : execOn answer p d = some (o, d')) (hfin : execOn answer fin d' = some (.raise e, d'')) :
    execOn answer (p.tryFinally fin) d = some (.raise e, d'') := by
  induction p generalizing d with
  | ret b =>
    cases hp
    exact execOn_bind_raise _ hfin
  | raise e' =>
    cases hp
    exact execOn_bind_raise _ hfin
  | diverge => cases hp
  | get k ih => exact ih () hp
  | set m k ih => exact ih hp
  | call c k ih => exact ih _ hp

end Execution

end Postconditions

section Discipline

/-- In which phase a program may make which call, and the phase after the answer. -/
structure Discipline (S : Signature) (Φ : Type) where
  allowed : Φ → S.Call → Prop
  next : Φ → (c : S.Call) → Reply S c → Φ

variable {P : Discipline S Φ} {Q R : Φ → Outcome S α → Prop}

/-- The phase after some answered calls. -/
def Discipline.after (P : Discipline S Φ) (φ : Φ) (past : List (Event S)) : Φ :=
  past.foldl (fun φ ev => P.next φ ev.1 ev.2) φ

/-- Whatever the answers, the program keeps to the discipline and ends in `Q`. -/
def Follows (P : Discipline S Φ) (Q : Φ → Outcome S α → Prop) : Prog S Unit α → Φ → Prop
  | .ret a, φ => Q φ (.ret a)
  | .raise e, φ => Q φ (.raise e)
  | .diverge, _ => True
  | .get k, φ => Follows P Q (k ()) φ
  | .set _ k, φ => Follows P Q k φ
  | .call c k, φ => P.allowed φ c ∧ ∀ r, Follows P Q (k r) (P.next φ c r)

theorem Follows.mono {p : Prog S Unit α} {φ : Φ} (h : Follows P Q p φ)
    (hQR : ∀ φ o, Q φ o → R φ o) : Follows P R p φ := by
  induction p generalizing φ with
  | ret a => exact hQR _ _ h
  | raise e => exact hQR _ _ h
  | diverge => trivial
  | get k ih => exact ih () h
  | set m k ih => exact ih h
  | call c k ih => exact ⟨h.1, fun r => ih r (h.2 r)⟩

theorem Follows.bind {p : Prog S Unit α} {f : α → Prog S Unit β} {Q : Φ → Outcome S α → Prop}
    {R : Φ → Outcome S β → Prop} {φ : Φ} (hp : Follows P Q p φ)
    (hret : ∀ φ a, Q φ (.ret a) → Follows P R (f a) φ)
    (hraise : ∀ φ e, Q φ (.raise e) → R φ (.raise e)) : Follows P R (p >>= f) φ := by
  induction p generalizing φ with
  | ret a => exact hret φ a hp
  | raise e => exact hraise φ e hp
  | diverge => trivial
  | get k ih => exact ih () hp
  | set m k ih => exact ih hp
  | call c k ih => exact ⟨hp.1, fun r => ih r (hp.2 r)⟩

theorem Follows.tryExcept {p : Prog S Unit α} {h : S.Exn → Prog S Unit α} {φ : Φ}
    (hp : Follows P Q p φ) (hret : ∀ φ a, Q φ (.ret a) → R φ (.ret a))
    (hraise : ∀ φ e, Q φ (.raise e) → Follows P R (h e) φ) :
    Follows P R (p.tryExcept h) φ := by
  induction p generalizing φ with
  | ret a => exact hret φ a hp
  | raise e => exact hraise φ e hp
  | diverge => trivial
  | get k ih => exact ih () hp
  | set m k ih => exact ih hp
  | call c k ih => exact ⟨hp.1, fun r => ih r (hp.2 r)⟩

theorem Follows.tryFinally {p : Prog S Unit α} {fin : Prog S Unit Unit} {φ : Φ}
    (hp : Follows P Q p φ) (hfin : ∀ φ o, Q φ o → Follows P (fun φ' o' => match o' with
      | .ret _ => R φ' o
      | .raise e => R φ' (.raise e)) fin φ) : Follows P R (p.tryFinally fin) φ := by
  induction p generalizing φ with
  | ret a => exact (hfin φ _ hp).bind (fun _ _ h => h) fun _ _ h => h
  | raise e => exact (hfin φ _ hp).bind (fun _ _ h => h) fun _ _ h => h
  | diverge => trivial
  | get k ih => exact ih () hp
  | set m k ih => exact ih hp
  | call c k ih => exact ⟨hp.1, fun r => ih r (hp.2 r)⟩

theorem Follows.perform {c : S.Call} {Q : Φ → Outcome S (S.Answer c) → Prop} {φ : Φ}
    (hc : P.allowed φ c) (hok : ∀ a, Q (P.next φ c (.ok a)) (.ret a))
    (herror : ∀ e, Q (P.next φ c (.error e)) (.raise e)) :
    Follows P Q (Prog.perform c) φ := by
  refine ⟨hc, fun r => ?_⟩
  cases r with
  | ok a => exact hok a
  | error e => exact herror e

theorem Follows.ofReply {r : Except S.Exn α} {φ : Φ} (hok : ∀ a, r = .ok a → Q φ (.ret a))
    (herror : ∀ e, r = .error e → Q φ (.raise e)) : Follows P Q (Prog.ofReply r) φ := by
  cases r with
  | ok a => exact hok a rfl
  | error e => exact herror e rfl

/-- An invariant of the calls that the discipline allows holds at the end of every run. -/
theorem Follows.runsOn {serve : Server S D} {J : Φ → D → Prop}
    (hstep : ∀ φ d c r d', J φ d → P.allowed φ c → serve d c r d' → J (P.next φ c r) d')
    {p : Prog S Unit α} {φ : Φ} {d d' : D} {o : Outcome S α} (hp : Follows P Q p φ) (hJ : J φ d)
    (hrun : RunsOn serve p d o d') : ∃ φ', J φ' d' ∧ Q φ' o := by
  induction p generalizing φ d with
  | ret a =>
    obtain ⟨rfl, rfl⟩ := hrun
    exact ⟨φ, hJ, hp⟩
  | raise e =>
    obtain ⟨rfl, rfl⟩ := hrun
    exact ⟨φ, hJ, hp⟩
  | diverge => exact hrun.elim
  | get k ih => exact ih () hp hJ hrun
  | set m k ih => exact ih hp hJ hrun
  | call c k ih =>
    obtain ⟨r, d₁, hserve, hrun⟩ := hrun
    exact ih r (hp.2 r) (hstep φ d c r d₁ hJ hp.1 hserve) hrun

end Discipline

section Pool

/-- A party at work: its task, the calls it made for it, and the rest of its program. -/
structure Running (S : Signature) (τ α : Type) where
  task : τ
  past : List (Event S)
  rest : Prog S Unit α

structure Pool (S : Signature) (W D τ α : Type) where
  shared : D
  running : W → Option (Running S τ α)

/-- What can be seen of one step. -/
inductive Label (S : Signature) (W τ α : Type) where
  | started (w : W) (t : τ)
  | called (w : W) (t : τ) (ev : Event S)
  | silent (w : W) (t : τ)
  | returned (w : W) (t : τ) (past : List (Event S)) (a : α)
  | raised (w : W) (t : τ) (past : List (Event S)) (e : S.Exn)
  | crashed (w : W) (t : τ)

variable [DecidableEq W]

def Pool.become (pool : Pool S W D τ α) (w : W) (r : Option (Running S τ α)) (d : D) :
    Pool S W D τ α :=
  ⟨d, Function.update pool.running w r⟩

/-- One step of one party. -/
inductive PoolStep (body : τ → Prog S Unit α) (serve : W → Server S D) (crash : W → D → D) :
    Pool S W D τ α → Label S W τ α → Pool S W D τ α → Prop where
  | start {pool} {w : W} (t : τ) (h : pool.running w = none) :
      PoolStep body serve crash pool (.started w t)
        (pool.become w (some ⟨t, [], body t⟩) pool.shared)
  | call {pool} {w : W} {t : τ} {past : List (Event S)} {c : S.Call}
      {k : Reply S c → Prog S Unit α} {r : Reply S c} {d' : D}
      (h : pool.running w = some ⟨t, past, .call c k⟩) (hserve : serve w pool.shared c r d') :
      PoolStep body serve crash pool (.called w t ⟨c, r⟩)
        (pool.become w (some ⟨t, past ++ [⟨c, r⟩], k r⟩) d')
  | get {pool} {w : W} {t : τ} {past : List (Event S)} {k : Unit → Prog S Unit α}
      (h : pool.running w = some ⟨t, past, .get k⟩) :
      PoolStep body serve crash pool (.silent w t)
        (pool.become w (some ⟨t, past, k ()⟩) pool.shared)
  | set {pool} {w : W} {t : τ} {past : List (Event S)} {m : Unit} {k : Prog S Unit α}
      (h : pool.running w = some ⟨t, past, .set m k⟩) :
      PoolStep body serve crash pool (.silent w t)
        (pool.become w (some ⟨t, past, k⟩) pool.shared)
  | ret {pool} {w : W} {t : τ} {past : List (Event S)} {a : α}
      (h : pool.running w = some ⟨t, past, .ret a⟩) :
      PoolStep body serve crash pool (.returned w t past a) (pool.become w none pool.shared)
  | raise {pool} {w : W} {t : τ} {past : List (Event S)} {e : S.Exn}
      (h : pool.running w = some ⟨t, past, .raise e⟩) :
      PoolStep body serve crash pool (.raised w t past e) (pool.become w none pool.shared)
  | crash {pool} {w : W} {r : Running S τ α} (h : pool.running w = some r) :
      PoolStep body serve crash pool (.crashed w r.task)
        (pool.become w none (crash w pool.shared))

/-- The runs of a pool of idle parties from the shared state `d`. -/
inductive PoolRuns (body : τ → Prog S Unit α) (serve : W → Server S D) (crash : W → D → D) (d : D) :
    List (Label S W τ α) → Pool S W D τ α → Prop where
  | nil : PoolRuns body serve crash d [] ⟨d, fun _ => none⟩
  | step {trace : List (Label S W τ α)} {pool pool' : Pool S W D τ α} {label : Label S W τ α}
      (h : PoolRuns body serve crash d trace pool)
      (hstep : PoolStep body serve crash pool label pool') :
      PoolRuns body serve crash d (trace ++ [label]) pool'

/-- How the other parties stand to the shared state is not touched by a step of `w`. -/
def Frame (Idle : W → D → Prop) (Local : W → τ → Φ → D → Prop) (w : W) (d d' : D) : Prop :=
  ∀ w' ≠ w, (Idle w' d → Idle w' d') ∧ ∀ t φ, Local w' t φ d → Local w' t φ d'

/-- What a discipline and an invariant must satisfy: each call is checked on its own. -/
structure Disciplined (body : τ → Prog S Unit α) (serve : W → Server S D) (crash : W → D → D)
    (P : τ → Discipline S Φ) (fresh : Φ) (Q : τ → Φ → Outcome S α → Prop)
    (Shared : D → Prop) (Idle : W → D → Prop) (Local : W → τ → Φ → D → Prop) : Prop where
  follows : ∀ t, Follows (P t) (Q t) (body t) fresh
  start : ∀ w t d, Idle w d → Local w t fresh d
  call : ∀ w t φ d c r d', Shared d → Local w t φ d → (P t).allowed φ c → serve w d c r d' →
    Shared d' ∧ Local w t ((P t).next φ c r) d'
  call_frame : ∀ w t φ d c r d', Shared d → Local w t φ d → (P t).allowed φ c →
    serve w d c r d' → Frame Idle Local w d d'
  finish : ∀ w t φ d o, Local w t φ d → Q t φ o → Idle w d
  crashed : ∀ w d, Shared d → Shared (crash w d) ∧ Idle w (crash w d)
  crashed_frame : ∀ w d, Shared d → Frame Idle Local w d (crash w d)

variable {body : τ → Prog S Unit α} {serve : W → Server S D} {crash : W → D → D}
  {P : τ → Discipline S Φ} {fresh : Φ} {Q : τ → Φ → Outcome S α → Prop}
  {Shared : D → Prop} {Idle : W → D → Prop} {Local : W → τ → Φ → D → Prop}

/-- How one party stands to the shared state. -/
def Standing (P : τ → Discipline S Φ) (fresh : Φ) (Q : τ → Φ → Outcome S α → Prop)
    (Idle : W → D → Prop) (Local : W → τ → Φ → D → Prop) (w : W) (d : D) :
    Option (Running S τ α) → Prop
  | none => Idle w d
  | some r => Local w r.task ((P r.task).after fresh r.past) d ∧
      Follows (P r.task) (Q r.task) r.rest ((P r.task).after fresh r.past)

/-- The invariant of a pool. -/
def Orderly (P : τ → Discipline S Φ) (fresh : Φ) (Q : τ → Φ → Outcome S α → Prop)
    (Shared : D → Prop) (Idle : W → D → Prop) (Local : W → τ → Φ → D → Prop)
    (pool : Pool S W D τ α) : Prop :=
  Shared pool.shared ∧ ∀ w, Standing P fresh Q Idle Local w pool.shared (pool.running w)

theorem Orderly.become {pool : Pool S W D τ α} {w : W} {r : Option (Running S τ α)} {d : D}
    (h : Orderly P fresh Q Shared Idle Local pool) (hd : Shared d)
    (hw : Standing P fresh Q Idle Local w d r)
    (hframe : Frame Idle Local w pool.shared d) :
    Orderly P fresh Q Shared Idle Local (pool.become w r d) := by
  refine ⟨hd, fun w' => ?_⟩
  by_cases hww : w' = w
  · subst hww
    simpa [Pool.become] using hw
  · have hother : (pool.become w r d).running w' = pool.running w' := by
      simp [Pool.become, hww]
    have hstanding := h.2 w'
    rw [hother]
    cases hr : pool.running w' with
    | none =>
      rw [hr] at hstanding
      exact (hframe w' hww).1 hstanding
    | some r' =>
      rw [hr] at hstanding
      exact ⟨(hframe w' hww).2 _ _ hstanding.1, hstanding.2⟩

theorem Orderly.step (hD : Disciplined body serve crash P fresh Q Shared Idle Local)
    {pool pool' : Pool S W D τ α} {label : Label S W τ α}
    (h : Orderly P fresh Q Shared Idle Local pool)
    (hstep : PoolStep body serve crash pool label pool') :
    Orderly P fresh Q Shared Idle Local pool' := by
  have hsame : ∀ w : W, Frame Idle Local w pool.shared pool.shared :=
    fun _ _ _ => ⟨id, fun _ _ => id⟩
  cases hstep with
  | @start w t hw =>
    have hidle := h.2 w
    rw [hw] at hidle
    exact h.become h.1 ⟨hD.start w t _ hidle, hD.follows t⟩ (hsame w)
  | @call w t past c k r d' hw hserve =>
    have hrunning := h.2 w
    rw [hw] at hrunning
    obtain ⟨hlocal, hallowed, hrest⟩ := hrunning
    obtain ⟨hshared, hnext⟩ := hD.call w t _ _ c r d' h.1 hlocal hallowed hserve
    have hafter : (P t).after fresh (past ++ [⟨c, r⟩]) =
        (P t).next ((P t).after fresh past) c r := by simp [Discipline.after]
    refine h.become hshared ⟨?_, ?_⟩ (hD.call_frame w t _ _ c r d' h.1 hlocal hallowed hserve)
    · rw [hafter]
      exact hnext
    · rw [hafter]
      exact hrest r
  | @get w t past k hw =>
    have hrunning := h.2 w
    rw [hw] at hrunning
    exact h.become h.1 hrunning (hsame w)
  | @set w t past m k hw =>
    have hrunning := h.2 w
    rw [hw] at hrunning
    exact h.become h.1 hrunning (hsame w)
  | @ret w t past a hw =>
    have hrunning := h.2 w
    rw [hw] at hrunning
    exact h.become h.1 (hD.finish w t _ _ _ hrunning.1 hrunning.2) (hsame w)
  | @raise w t past e hw =>
    have hrunning := h.2 w
    rw [hw] at hrunning
    exact h.become h.1 (hD.finish w t _ _ _ hrunning.1 hrunning.2) (hsame w)
  | @crash w r hw =>
    obtain ⟨hshared, hidle⟩ := hD.crashed w _ h.1
    exact h.become hshared hidle (hD.crashed_frame w _ h.1)

/-- Every interleaving keeps the invariant. -/
theorem PoolRuns.orderly (hD : Disciplined body serve crash P fresh Q Shared Idle Local) {d : D}
    (hshared : Shared d) (hidle : ∀ w, Idle w d) {trace : List (Label S W τ α)}
    {pool : Pool S W D τ α} (h : PoolRuns body serve crash d trace pool) :
    Orderly P fresh Q Shared Idle Local pool := by
  induction h with
  | nil => exact ⟨hshared, hidle⟩
  | step _ hstep ih => exact ih.step hD hstep

/-- Every finished task ended as its discipline says, and in a state that its phase allows. -/
theorem PoolRuns.ended (hD : Disciplined body serve crash P fresh Q Shared Idle Local) {d : D}
    (hshared : Shared d) (hidle : ∀ w, Idle w d) {trace : List (Label S W τ α)}
    {pool : Pool S W D τ α} (h : PoolRuns body serve crash d trace pool) :
    (∀ w t past a, .returned w t past a ∈ trace → Q t ((P t).after fresh past) (.ret a) ∧
      ∃ d, Local w t ((P t).after fresh past) d) ∧
    ∀ w t past e, .raised w t past e ∈ trace → Q t ((P t).after fresh past) (.raise e) ∧
      ∃ d, Local w t ((P t).after fresh past) d := by
  induction h with
  | nil => simp
  | @step trace pool pool' label h hstep ih =>
    have horderly := h.orderly hD hshared hidle
    constructor
    · intro w t past a hmem
      rcases List.mem_append.mp hmem with hmem | hmem
      · exact ih.1 w t past a hmem
      · rw [List.mem_singleton] at hmem
        subst hmem
        cases hstep with
        | ret hw =>
          have hrunning := horderly.2 w
          rw [hw] at hrunning
          exact ⟨hrunning.2, pool.shared, hrunning.1⟩
    · intro w t past e hmem
      rcases List.mem_append.mp hmem with hmem | hmem
      · exact ih.2 w t past e hmem
      · rw [List.mem_singleton] at hmem
        subst hmem
        cases hstep with
        | raise hw =>
          have hrunning := horderly.2 w
          rw [hw] at hrunning
          exact ⟨hrunning.2, pool.shared, hrunning.1⟩

end Pool

end PamMvp.SharedPrograms
