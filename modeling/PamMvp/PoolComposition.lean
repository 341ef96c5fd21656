import PamMvp.SharedPrograms

/-!
# Two kinds of parties on one server

The tasks of a pool are those of two pools. Each kind of party keeps to its own discipline,
and when the calls of either kind respect what the other relies on, the invariants of both
hold over every interleaving of both. Parties of a kind that never changes the shared state
can be erased from a run.
-/
namespace PamMvp.PoolComposition
open InteractionPrograms SharedPrograms

variable {S : Signature} {α D W τ τ₁ τ₂ Φ₁ Φ₂ : Type}

section Disciplines

/-- The discipline of the first kind, with a phase of the second kind beside its own. -/
def leftDiscipline (P : Discipline S Φ₁) : Discipline S (Φ₁ × Φ₂) :=
  ⟨fun φ c => P.allowed φ.1 c, fun φ c r => (P.next φ.1 c r, φ.2)⟩

def rightDiscipline (P : Discipline S Φ₂) : Discipline S (Φ₁ × Φ₂) :=
  ⟨fun φ c => P.allowed φ.2 c, fun φ c r => (φ.1, P.next φ.2 c r)⟩

def bothDisciplines (P₁ : τ₁ → Discipline S Φ₁) (P₂ : τ₂ → Discipline S Φ₂) :
    τ₁ ⊕ τ₂ → Discipline S (Φ₁ × Φ₂)
  | .inl t => leftDiscipline (P₁ t)
  | .inr t => rightDiscipline (P₂ t)

def bothEnds (Q₁ : τ₁ → Φ₁ → Outcome S α → Prop) (Q₂ : τ₂ → Φ₂ → Outcome S α → Prop) :
    τ₁ ⊕ τ₂ → Φ₁ × Φ₂ → Outcome S α → Prop
  | .inl t, φ => Q₁ t φ.1
  | .inr t, φ => Q₂ t φ.2

def bothLocal (L₁ : W → τ₁ → Φ₁ → D → Prop) (L₂ : W → τ₂ → Φ₂ → D → Prop) :
    W → τ₁ ⊕ τ₂ → Φ₁ × Φ₂ → D → Prop
  | w, .inl t, φ => L₁ w t φ.1
  | w, .inr t, φ => L₂ w t φ.2

/-- A program that keeps to a discipline keeps to any that allows the same calls in the
phases that correspond. -/
theorem follows_simulated {Φ Ψ : Type} {P : Discipline S Φ} {P' : Discipline S Ψ}
    {Q : Φ → Outcome S α → Prop} {Q' : Ψ → Outcome S α → Prop} (R : Φ → Ψ → Prop)
    (hallowed : ∀ φ ψ c, R φ ψ → P.allowed φ c → P'.allowed ψ c)
    (hnext : ∀ φ ψ c r, R φ ψ → R (P.next φ c r) (P'.next ψ c r))
    (hends : ∀ φ ψ o, R φ ψ → Q φ o → Q' ψ o) {p : Prog S Unit α} {φ : Φ} {ψ : Ψ}
    (hR : R φ ψ) (h : Follows P Q p φ) : Follows P' Q' p ψ := by
  induction p generalizing φ ψ with
  | ret a => exact hends φ ψ _ hR h
  | raise e => exact hends φ ψ _ hR h
  | diverge => trivial
  | get k ih => exact ih () hR h
  | set m k ih => exact ih hR h
  | call c k ih =>
    have hstep := fun r => ih r (hnext φ ψ c r hR) (h.2 r)
    exact ⟨hallowed φ ψ c hR h.1, hstep⟩

theorem follows_left {P : Discipline S Φ₁} {Q : Φ₁ → Outcome S α → Prop} {p : Prog S Unit α}
    {φ : Φ₁} (ψ : Φ₂) (h : Follows P Q p φ) :
    Follows (leftDiscipline P) (fun φ => Q φ.1) p (φ, ψ) := by
  apply follows_simulated (fun φ₁ φ => φ.1 = φ₁) ?_ ?_ ?_ rfl h
  · intro _ φ c hφ hallowed
    rw [← hφ] at hallowed
    exact hallowed
  · intro _ φ c r hφ
    rw [← hφ]
    rfl
  · intro _ φ o hφ hQ
    rw [← hφ] at hQ
    exact hQ

theorem follows_right {P : Discipline S Φ₂} {Q : Φ₂ → Outcome S α → Prop} {p : Prog S Unit α}
    (φ : Φ₁) {ψ : Φ₂} (h : Follows P Q p ψ) :
    Follows (rightDiscipline P) (fun φ => Q φ.2) p (φ, ψ) := by
  apply follows_simulated (fun ψ₁ φ => φ.2 = ψ₁) ?_ ?_ ?_ rfl h
  · intro _ φ c hφ hallowed
    rw [← hφ] at hallowed
    exact hallowed
  · intro _ φ c r hφ
    rw [← hφ]
    rfl
  · intro _ φ o hφ hQ
    rw [← hφ] at hQ
    exact hQ

theorem after_right (P : Discipline S Φ₂) (φ : Φ₁) (ψ : Φ₂) (past : List (Event S)) :
    (rightDiscipline P).after (φ, ψ) past = (φ, P.after ψ past) := by
  induction past generalizing ψ with
  | nil => rfl
  | cons ev past ih => exact ih (P.next ψ ev.1 ev.2)

/-- The discipline that only looks at the call, and whose phase is the history. -/
def historyDiscipline (allowed : S.Call → Prop) : Discipline S (List (Event S)) :=
  ⟨fun _ c => allowed c, fun past c r => past ++ [⟨c, r⟩]⟩

theorem after_history (allowed : S.Call → Prop) (before past : List (Event S)) :
    (historyDiscipline allowed).after before past = before ++ past := by
  induction past generalizing before with
  | nil => simp [Discipline.after]
  | cons ev past ih =>
    have h := ih (before ++ [ev])
    simpa [Discipline.after, historyDiscipline] using h

end Disciplines

section Frames

variable {Idle : W → D → Prop} {L₁ : W → τ₁ → Φ₁ → D → Prop} {L₂ : W → τ₂ → Φ₂ → D → Prop}

theorem Frame.both {w : W} {d d' : D} (h₁ : Frame Idle L₁ w d d') (h₂ : Frame Idle L₂ w d d') :
    Frame Idle (bothLocal L₁ L₂) w d d' := by
  intro w' hne
  refine ⟨(h₁ w' hne).1, fun t φ => ?_⟩
  cases t with
  | inl t => exact (h₁ w' hne).2 t φ.1
  | inr t => exact (h₂ w' hne).2 t φ.2

end Frames

section Pools

variable [DecidableEq W] {body₁ : τ₁ → Prog S Unit α} {body₂ : τ₂ → Prog S Unit α}
  {serve : W → Server S D} {crash : W → D → D}
  {P₁ : τ₁ → Discipline S Φ₁} {P₂ : τ₂ → Discipline S Φ₂} {fresh₁ : Φ₁} {fresh₂ : Φ₂}
  {Q₁ : τ₁ → Φ₁ → Outcome S α → Prop} {Q₂ : τ₂ → Φ₂ → Outcome S α → Prop}
  {Shared : D → Prop} {Idle : W → D → Prop} {L₁ : W → τ₁ → Φ₁ → D → Prop}
  {L₂ : W → τ₂ → Φ₂ → D → Prop}

omit [DecidableEq W] in
/-- The invariants of two pools hold when both work on one server, as long as the calls of
each kind respect the local invariants of the other. -/
theorem Disciplined.both (h₁ : Disciplined body₁ serve crash P₁ fresh₁ Q₁ Shared Idle L₁)
    (h₂ : Disciplined body₂ serve crash P₂ fresh₂ Q₂ Shared Idle L₂)
    (h₁₂ : ∀ w t φ d c r d', Shared d → L₁ w t φ d → (P₁ t).allowed φ c → serve w d c r d' →
      Frame Idle L₂ w d d')
    (h₂₁ : ∀ w t φ d c r d', Shared d → L₂ w t φ d → (P₂ t).allowed φ c → serve w d c r d' →
      Frame Idle L₁ w d d') :
    Disciplined (Sum.elim body₁ body₂) serve crash (bothDisciplines P₁ P₂) (fresh₁, fresh₂)
      (bothEnds Q₁ Q₂) Shared Idle (bothLocal L₁ L₂) where
  follows t := by
    cases t with
    | inl t => exact follows_left fresh₂ (h₁.follows t)
    | inr t => exact follows_right fresh₁ (h₂.follows t)
  start w t d hidle := by
    cases t with
    | inl t => exact h₁.start w t d hidle
    | inr t => exact h₂.start w t d hidle
  call w t φ d c r d' hshared hlocal hallowed hserve := by
    cases t with
    | inl t => exact h₁.call w t φ.1 d c r d' hshared hlocal hallowed hserve
    | inr t => exact h₂.call w t φ.2 d c r d' hshared hlocal hallowed hserve
  call_frame w t φ d c r d' hshared hlocal hallowed hserve := by
    cases t with
    | inl t =>
      have hown := h₁.call_frame w t φ.1 d c r d' hshared hlocal hallowed hserve
      exact Frame.both hown (h₁₂ w t φ.1 d c r d' hshared hlocal hallowed hserve)
    | inr t =>
      have hown := h₂.call_frame w t φ.2 d c r d' hshared hlocal hallowed hserve
      exact Frame.both (h₂₁ w t φ.2 d c r d' hshared hlocal hallowed hserve) hown
  finish w t φ d o hlocal hends := by
    cases t with
    | inl t => exact h₁.finish w t φ.1 d o hlocal hends
    | inr t => exact h₂.finish w t φ.2 d o hlocal hends
  crashed := h₁.crashed
  crashed_frame w d hshared := Frame.both (h₁.crashed_frame w d hshared)
    (h₂.crashed_frame w d hshared)

/-- What a step shows of the parties of the first kind. -/
def leftLabel : Label S W (τ₁ ⊕ τ₂) α → Option (Label S W τ₁ α)
  | .started w (.inl t) => some (.started w t)
  | .called w (.inl t) ev => some (.called w t ev)
  | .silent w (.inl t) => some (.silent w t)
  | .returned w (.inl t) past a => some (.returned w t past a)
  | .raised w (.inl t) past e => some (.raised w t past e)
  | .crashed w (.inl t) => some (.crashed w t)
  | _ => none

def leftRunning : Option (Running S (τ₁ ⊕ τ₂) α) → Option (Running S τ₁ α)
  | some ⟨.inl t, past, rest⟩ => some ⟨t, past, rest⟩
  | _ => none

/-- The pool without the parties of the second kind. -/
def leftPool (pool : Pool S W D (τ₁ ⊕ τ₂) α) : Pool S W D τ₁ α :=
  ⟨pool.shared, fun w => leftRunning (pool.running w)⟩

theorem leftPool_become (pool : Pool S W D (τ₁ ⊕ τ₂) α) (w : W)
    (r : Option (Running S (τ₁ ⊕ τ₂) α)) (d : D) :
    leftPool (pool.become w r d) = (leftPool pool).become w (leftRunning r) d := by
  unfold leftPool Pool.become
  congr 1
  funext w'
  by_cases hw : w' = w
  · simp only [hw, Function.update_self]
  · simp only [Function.update_of_ne hw]

/-- A step of a party of the second kind is not seen. -/
theorem leftPool_unseen {pool : Pool S W D (τ₁ ⊕ τ₂) α} {w : W}
    {r : Option (Running S (τ₁ ⊕ τ₂) α)} (h : leftRunning (pool.running w) = none)
    (hr : leftRunning r = none) : leftPool (pool.become w r pool.shared) = leftPool pool := by
  rw [leftPool_become, hr]
  unfold leftPool Pool.become
  congr 1
  funext w'
  by_cases hw : w' = w
  · simp only [hw, Function.update_self, h]
  · simp only [Function.update_of_ne hw]

/-- The second kind never changes the shared state, not even in a crash. -/
structure Passive (serve : W → Server S D) (crash : W → D → D) (P₂ : τ₂ → Discipline S Φ₂)
    (L₂ : W → τ₂ → Φ₂ → D → Prop) : Prop where
  call : ∀ w t φ d c r d', L₂ w t φ d → (P₂ t).allowed φ c → serve w d c r d' → d' = d
  crashed : ∀ w t φ d, L₂ w t φ d → crash w d = d

theorem PoolStep.erase (hpassive : Passive serve crash P₂ L₂)
    {pool pool' : Pool S W D (τ₁ ⊕ τ₂) α} {label : Label S W (τ₁ ⊕ τ₂) α}
    (horderly : Orderly (bothDisciplines P₁ P₂) (fresh₁, fresh₂) (bothEnds Q₁ Q₂) Shared Idle
      (bothLocal L₁ L₂) pool)
    (h : PoolStep (Sum.elim body₁ body₂) serve crash pool label pool') :
    (∃ seen, leftLabel label = some seen ∧
        PoolStep body₁ serve crash (leftPool pool) seen (leftPool pool')) ∨
      leftLabel label = none ∧ leftPool pool' = leftPool pool := by
  have hrunning {w : W} {r : Running S (τ₁ ⊕ τ₂) α} (hw : pool.running w = some r) :
      (leftPool pool).running w = leftRunning (some r) := congrArg leftRunning hw
  have hstanding {w : W} {r : Running S (τ₁ ⊕ τ₂) α} (hw : pool.running w = some r) :
      Standing (bothDisciplines P₁ P₂) (fresh₁, fresh₂) (bothEnds Q₁ Q₂) Idle
        (bothLocal L₁ L₂) w pool.shared (some r) := by
    have hall := horderly.2 w
    rwa [hw] at hall
  cases h with
  | @start w t hw =>
    cases t with
    | inl t =>
      left
      rw [leftPool_become]
      exact ⟨_, rfl, .start t (congrArg leftRunning hw)⟩
    | inr t => exact .inr ⟨rfl, leftPool_unseen (congrArg leftRunning hw) rfl⟩
  | @call w t past c k r d' hw hserve =>
    cases t with
    | inl t =>
      left
      rw [leftPool_become]
      exact ⟨_, rfl, .call (hrunning hw) hserve⟩
    | inr t =>
      obtain ⟨hlocal, hrest⟩ := hstanding hw
      have hsame := hpassive.call w t _ _ c r d' hlocal hrest.1 hserve
      right
      rw [hsame]
      exact ⟨rfl, leftPool_unseen (congrArg leftRunning hw) rfl⟩
  | @get w t past k hw =>
    cases t with
    | inl t =>
      left
      rw [leftPool_become]
      exact ⟨_, rfl, .get (hrunning hw)⟩
    | inr t => exact .inr ⟨rfl, leftPool_unseen (congrArg leftRunning hw) rfl⟩
  | @set w t past m k hw =>
    cases t with
    | inl t =>
      left
      rw [leftPool_become]
      exact ⟨_, rfl, .set (hrunning hw)⟩
    | inr t => exact .inr ⟨rfl, leftPool_unseen (congrArg leftRunning hw) rfl⟩
  | @ret w t past a hw =>
    cases t with
    | inl t =>
      left
      rw [leftPool_become]
      exact ⟨_, rfl, .ret (hrunning hw)⟩
    | inr t => exact .inr ⟨rfl, leftPool_unseen (congrArg leftRunning hw) rfl⟩
  | @raise w t past e hw =>
    cases t with
    | inl t =>
      left
      rw [leftPool_become]
      exact ⟨_, rfl, .raise (hrunning hw)⟩
    | inr t => exact .inr ⟨rfl, leftPool_unseen (congrArg leftRunning hw) rfl⟩
  | @crash w r hw =>
    obtain ⟨t, past, rest⟩ := r
    cases t with
    | inl t =>
      left
      rw [leftPool_become]
      exact ⟨_, rfl, .crash (hrunning hw)⟩
    | inr t =>
      have hsame := hpassive.crashed w t _ _ (hstanding hw).1
      right
      rw [hsame]
      exact ⟨rfl, leftPool_unseen (congrArg leftRunning hw) rfl⟩

/-- A run without the parties that change nothing is a run. -/
theorem PoolRuns.erase (hpassive : Passive serve crash P₂ L₂)
    (hD : Disciplined (Sum.elim body₁ body₂) serve crash (bothDisciplines P₁ P₂) (fresh₁, fresh₂)
      (bothEnds Q₁ Q₂) Shared Idle (bothLocal L₁ L₂)) {d : D} (hshared : Shared d)
    (hidle : ∀ w, Idle w d) {trace : List (Label S W (τ₁ ⊕ τ₂) α)}
    {pool : Pool S W D (τ₁ ⊕ τ₂) α}
    (h : PoolRuns (Sum.elim body₁ body₂) serve crash d trace pool) :
    PoolRuns body₁ serve crash d (trace.filterMap leftLabel) (leftPool pool) := by
  induction h with
  | nil => exact .nil
  | @step trace pool pool' label h hstep ih =>
    have horderly := h.orderly hD hshared hidle
    rw [List.filterMap_append]
    rcases PoolStep.erase hpassive horderly hstep with ⟨seen, hseen, hleft⟩ | ⟨hunseen, hsame⟩
    · rw [List.filterMap_cons_some hseen]
      exact ih.step hleft
    · rw [List.filterMap_cons_none hunseen, hsame, List.filterMap_nil, List.append_nil]
      exact ih

end Pools

section Histories

variable [DecidableEq W] {body : τ → Prog S Unit α} {serve : W → Server S D} {crash : W → D → D}

/-- The calls of a party at work are in the trace. -/
theorem PoolRuns.past_called {d : D} {trace : List (Label S W τ α)} {pool : Pool S W D τ α}
    (h : PoolRuns body serve crash d trace pool) :
    ∀ w r, pool.running w = some r → ∀ ev ∈ r.past, .called w r.task ev ∈ trace := by
  induction h with
  | nil =>
    intro w r hw
    cases hw
  | @step trace pool pool' label h hstep ih =>
    -- only the party that makes the step can gain a call, and that call is the label
    have hother {w' : W} {r' : Option (Running S τ α)} {d' : D}
        (hown : ∀ r, r' = some r → ∀ ev ∈ r.past, .called w' r.task ev ∈ trace ++ [label]) :
        ∀ w r, (pool.become w' r' d').running w = some r →
          ∀ ev ∈ r.past, .called w r.task ev ∈ trace ++ [label] := by
      intro w r hw ev hev
      by_cases hww : w = w'
      · subst hww
        apply hown r _ ev hev
        simpa [Pool.become] using hw
      · have hsame : pool.running w = some r := by simpa [Pool.become, hww] using hw
        exact List.mem_append_left _ (ih w r hsame ev hev)
    have hkept {w' : W} {t : τ} {past : List (Event S)} {rest rest' : Prog S Unit α}
        (hw : pool.running w' = some ⟨t, past, rest⟩) :
        ∀ r, some (⟨t, past, rest'⟩ : Running S τ α) = some r →
          ∀ ev ∈ r.past, .called w' r.task ev ∈ trace ++ [label] := by
      intro r hr ev hev
      cases hr
      exact List.mem_append_left _ (ih w' _ hw ev hev)
    cases hstep with
    | start t hw =>
      apply hother
      intro r hr ev hev
      cases hr
      cases hev
    | @call w' t past c k r' d' hw hserve =>
      apply hother
      intro r hr ev hev
      cases hr
      rcases List.mem_append.mp hev with hev | hev
      · exact List.mem_append_left _ (ih w' _ hw ev hev)
      · rw [List.mem_singleton.mp hev]
        simp
    | get hw => exact hother (hkept hw)
    | set hw => exact hother (hkept hw)
    | ret hw => exact hother fun r hr => by cases hr
    | raise hw => exact hother fun r hr => by cases hr
    | crash hw => exact hother fun r hr => by cases hr

/-- The calls of a party that returned are in the trace before its return. -/
theorem PoolRuns.returned_called {d : D} {trace : List (Label S W τ α)} {pool : Pool S W D τ α}
    (h : PoolRuns body serve crash d trace pool) {w : W} {t : τ} {past : List (Event S)} {a : α}
    (hreturned : .returned w t past a ∈ trace) :
    ∀ ev ∈ past, .called w t ev ∈ trace := by
  induction h with
  | nil => cases hreturned
  | @step trace pool pool' label h hstep ih =>
    intro ev hev
    apply List.mem_append_left
    rcases List.mem_append.mp hreturned with hreturned | hreturned
    · exact ih hreturned ev hev
    · rw [List.mem_singleton] at hreturned
      subst hreturned
      cases hstep with
      | ret hw => exact PoolRuns.past_called h w _ hw ev hev

end Histories

section Schedules

variable [DecidableEq W] {body : τ → Prog S Unit α} {serve : W → Server S D} {crash : W → D → D}

/-- The next step of a party on a server that has one answer to every call. -/
def advance (answer : W → D → (c : S.Call) → Reply S c × D) (w : W) (pool : Pool S W D τ α) :
    Option (Label S W τ α × Pool S W D τ α) :=
  match pool.running w with
  | some ⟨t, past, .call c k⟩ =>
    let served := answer w pool.shared c
    some (.called w t ⟨c, served.1⟩,
      pool.become w (some ⟨t, past ++ [⟨c, served.1⟩], k served.1⟩) served.2)
  | some ⟨t, past, .ret a⟩ => some (.returned w t past a, pool.become w none pool.shared)
  | some ⟨t, past, .raise e⟩ => some (.raised w t past e, pool.become w none pool.shared)
  | _ => none

theorem advance_step {answer : W → D → (c : S.Call) → Reply S c × D}
    (hanswer : ∀ w d c, serve w d c (answer w d c).1 (answer w d c).2) {w : W}
    {pool pool' : Pool S W D τ α} {label : Label S W τ α}
    (h : advance answer w pool = some (label, pool')) :
    PoolStep body serve crash pool label pool' := by
  unfold advance at h
  split at h
  · rename_i t past c k hw
    cases h
    exact .call hw (hanswer w pool.shared c)
  · rename_i t past a hw
    cases h
    exact .ret hw
  · rename_i t past e hw
    cases h
    exact .raise hw
  · cases h

/-- Each party in turn starts its task when it has one to start, or makes its next step. -/
def runSchedule (body : τ → Prog S Unit α) (answer : W → D → (c : S.Call) → Reply S c × D) :
    List (W × Option τ) → List (Label S W τ α) × Pool S W D τ α →
      List (Label S W τ α) × Pool S W D τ α
  | [], s => s
  | (w, some t) :: rest, s =>
    if (s.2.running w).isNone then
      runSchedule body answer rest (s.1 ++ [.started w t],
        s.2.become w (some ⟨t, [], body t⟩) s.2.shared)
    else runSchedule body answer rest s
  | (w, none) :: rest, s =>
    match advance answer w s.2 with
    | some (label, pool) => runSchedule body answer rest (s.1 ++ [label], pool)
    | none => runSchedule body answer rest s

theorem runSchedule_runs {answer : W → D → (c : S.Call) → Reply S c × D}
    (hanswer : ∀ w d c, serve w d c (answer w d c).1 (answer w d c).2) {d : D}
    (schedule : List (W × Option τ)) {s : List (Label S W τ α) × Pool S W D τ α}
    (h : PoolRuns body serve crash d s.1 s.2) :
    PoolRuns body serve crash d (runSchedule body answer schedule s).1
      (runSchedule body answer schedule s).2 := by
  induction schedule generalizing s with
  | nil => exact h
  | cons entry rest ih =>
    obtain ⟨w, start⟩ := entry
    cases start with
    | some t =>
      rw [runSchedule]
      split
      · rename_i hidle
        exact ih (h.step (.start t (Option.isNone_iff_eq_none.mp hidle)))
      · exact ih h
    | none =>
      rw [runSchedule]
      split
      · rename_i label pool hadvance
        exact ih (h.step (advance_step hanswer hadvance))
      · exact ih h

end Schedules

end PamMvp.PoolComposition
