import PamMvp.SharedPrograms

/-!
# What holds when a program returns

`Returns` looks at the runs of a program that end in a value. A run that raises says
nothing, so a handler that always raises can be left out, and so can every failed call.
-/
namespace PamMvp.ReturningPrograms
open InteractionPrograms SharedPrograms

variable {S : Signature} {α β D : Type} {serve : Server S D} {d : D}

/-- Every run of the program from `d` that returns leaves a value and a state with `Q`. -/
def Returns (serve : Server S D) (p : Prog S Unit α) (d : D) (Q : α → D → Prop) : Prop :=
  ∀ a d', RunsOn serve p d (.ret a) d' → Q a d'

theorem Returns.mono {p : Prog S Unit α} {Q R : α → D → Prop} (h : Returns serve p d Q)
    (hQR : ∀ a d', Q a d' → R a d') : Returns serve p d R :=
  fun a d' hrun => hQR a d' (h a d' hrun)

theorem returns_of_ensures {p : Prog S Unit α} {Q : α → D → Prop}
    (h : EnsuresOn serve p d fun o d' => ∀ a, o = .ret a → Q a d') : Returns serve p d Q :=
  fun a d' hrun => h _ d' hrun a rfl

theorem returns_pure {a : α} {Q : α → D → Prop} (h : Q a d) :
    Returns serve (pure a : Prog S Unit α) d Q := by
  intro b d' hrun
  obtain ⟨rfl, rfl⟩ := (runsOn_ret_iff a b).mp hrun
  exact h

theorem returns_raise (e : S.Exn) (Q : α → D → Prop) : Returns serve (.raise e) d Q := by
  intro a d' hrun
  cases hrun.1

theorem returns_ofReply {r : Except S.Exn α} {Q : α → D → Prop} (h : ∀ a, r = .ok a → Q a d) :
    Returns serve (Prog.ofReply r) d Q := by
  intro a d' hrun
  obtain ⟨hr, rfl⟩ := (runsOn_ofReply_ret r a).mp hrun
  exact h a hr

theorem returns_perform {c : S.Call} {Q : S.Answer c → D → Prop}
    (h : ∀ a d', serve d c (.ok a) d' → Q a d') : Returns serve (Prog.perform c) d Q :=
  fun a d' hrun => h a d' ((runsOn_perform_ret c a).mp hrun)

theorem Returns.bind {p : Prog S Unit α} {f : α → Prog S Unit β} {P : α → D → Prop}
    {Q : β → D → Prop} (hp : Returns serve p d P)
    (hf : ∀ a d', P a d' → Returns serve (f a) d' Q) : Returns serve (p >>= f) d Q := by
  intro b d' hrun
  obtain ⟨a, d₁, hfirst, hrest⟩ := (runsOn_bind_ret p f b).mp hrun
  exact hf a d₁ (hp a d₁ hfirst) b d' hrest

/-- A handler that never returns can be left out. -/
theorem Returns.tryExcept {p : Prog S Unit α} {h : S.Exn → Prog S Unit α} {Q : α → D → Prop}
    (hp : Returns serve p d Q) (hh : ∀ e d', Returns serve (h e) d' fun _ _ => False) :
    Returns serve (p.tryExcept h) d Q :=
  fun a d' hrun => hp a d'
    ((runsOn_tryExcept_ret p (fun e d₁ a d₂ hrun => hh e d₁ a d₂ hrun) a).mp hrun)

theorem Returns.rethrown {p : Prog S Unit α} {translate : S.Exn → S.Exn} {Q : α → D → Prop}
    (hp : Returns serve p d Q) : Returns serve (p.tryExcept fun e => .raise (translate e)) d Q :=
  hp.tryExcept fun _ _ => returns_raise _ _

theorem Returns.tryFinally {p : Prog S Unit α} {fin : Prog S Unit Unit} {P Q : α → D → Prop}
    (hp : Returns serve p d P)
    (hfin : ∀ a d', P a d' → Returns serve fin d' fun _ d'' => Q a d'') :
    Returns serve (p.tryFinally fin) d Q := by
  intro a d' hrun
  obtain ⟨d₁, hbody, hclose⟩ := (runsOn_tryFinally_ret p fin a).mp hrun
  exact hfin a d₁ (hp a d₁ hbody) () d' hclose

/-- Every run of the program that returns keeps what `f` sees of the state. -/
def Keeps {γ : Type} (serve : Server S D) (f : D → γ) (p : Prog S Unit α) : Prop :=
  ∀ d, Returns serve p d fun _ d' => f d' = f d

section Keeping

variable {γ : Type} {f : D → γ}

theorem Keeps.bind {p : Prog S Unit α} {k : α → Prog S Unit β} (hp : Keeps serve f p)
    (hk : ∀ a, Keeps serve f (k a)) : Keeps serve f (p >>= k) := by
  intro d
  refine (hp d).bind fun a d' h => ?_
  exact (hk a d').mono fun b d'' h' => h'.trans h

theorem keeps_pure (a : α) : Keeps serve f (pure a : Prog S Unit α) :=
  fun _ => returns_pure rfl

theorem keeps_raise (e : S.Exn) : Keeps serve f (.raise e : Prog S Unit α) :=
  fun _ => returns_raise e _

theorem keeps_perform {c : S.Call} (h : ∀ d a d', serve d c (.ok a) d' → f d' = f d) :
    Keeps serve f (Prog.perform c) :=
  fun d => returns_perform fun a d' hserve => h d a d' hserve

theorem Keeps.rethrown {p : Prog S Unit α} {translate : S.Exn → S.Exn} (hp : Keeps serve f p) :
    Keeps serve f (p.tryExcept fun e => .raise (translate e)) :=
  fun d => (hp d).rethrown

theorem Keeps.tryFinally {p : Prog S Unit α} {fin : Prog S Unit Unit} (hp : Keeps serve f p)
    (hfin : Keeps serve f fin) : Keeps serve f (p.tryFinally fin) :=
  fun d => (hp d).tryFinally fun _ d' h => (hfin d').mono fun _ _ h' => h'.trans h

end Keeping

end PamMvp.ReturningPrograms
