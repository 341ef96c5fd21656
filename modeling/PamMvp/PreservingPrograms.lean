import Mathlib.Order.Defs.Unbundled
import PamMvp.SharedPrograms

/-!
# What a program does to the state, however it ends

`Preserves` relates the state before a program to the state after it, for every run, whether
it returns or raises. For a preorder it is enough to look at single calls.
-/
namespace PamMvp.PreservingPrograms
open InteractionPrograms SharedPrograms

variable {S : Signature} {α β D : Type} {serve : Server S D} {R : D → D → Prop}

/-- Every run of the program leads to a state that is related to the one it started in. -/
def Preserves (serve : Server S D) (R : D → D → Prop) (p : Prog S Unit α) : Prop :=
  ∀ d, EnsuresOn serve p d fun _ d' => R d d'

/-- The calls of one kind lead to related states. -/
theorem preserves_perform {c : S.Call} (h : ∀ d r d', serve d c r d' → R d d') :
    Preserves serve R (Prog.perform c) := by
  intro d
  apply ensuresOn_perform
  · intro a d' hserve
    exact h d (.ok a) d' hserve
  · intro e d' hserve
    exact h d (.error e) d' hserve

theorem Preserves.call {c : S.Call} {r : Reply S c} {d d' : D}
    (h : Preserves serve R (Prog.perform c)) (hserve : serve d c r d') : R d d' := by
  cases r with
  | ok a => exact h d (.ret a) d' ⟨_, _, hserve, rfl, rfl⟩
  | error e => exact h d (.raise e) d' ⟨_, _, hserve, rfl, rfl⟩

theorem Preserves.mono {R' : D → D → Prop} {p : Prog S Unit α} (h : Preserves serve R p)
    (hR : ∀ d d', R d d' → R' d d') : Preserves serve R' p :=
  fun d => (h d).mono fun _ d' hd => hR d d' hd

section Preorder

variable [IsPreorder D R]

theorem preserves_pure (a : α) : Preserves serve R (pure a : Prog S Unit α) :=
  fun d => ensuresOn_ret a (refl_of R d)

theorem preserves_raise (e : S.Exn) : Preserves serve R (.raise e : Prog S Unit α) :=
  fun d => ensuresOn_raise e (refl_of R d)

theorem preserves_ofReply (r : Except S.Exn α) : Preserves serve R (Prog.ofReply r) :=
  fun d => ensuresOn_ofReply (fun _ _ => refl_of R d) fun _ _ => refl_of R d

theorem Preserves.bind {p : Prog S Unit α} {f : α → Prog S Unit β} (hp : Preserves serve R p)
    (hf : ∀ a, Preserves serve R (f a)) : Preserves serve R (p >>= f) := by
  intro d
  refine (hp d).bind (fun a d₁ hfirst => ?_) fun e d₁ hfirst => hfirst
  exact (hf a d₁).mono fun _ d' hrest => trans_of R hfirst hrest

theorem Preserves.tryExcept {p : Prog S Unit α} {handler : S.Exn → Prog S Unit α}
    (hp : Preserves serve R p) (hh : ∀ e, Preserves serve R (handler e)) :
    Preserves serve R (p.tryExcept handler) := by
  intro d
  refine (hp d).tryExcept (fun a d₁ hfirst => hfirst) fun e d₁ hfirst => ?_
  exact (hh e d₁).mono fun _ d' hrest => trans_of R hfirst hrest

theorem Preserves.tryFinally {p : Prog S Unit α} {fin : Prog S Unit Unit}
    (hp : Preserves serve R p) (hfin : Preserves serve R fin) :
    Preserves serve R (p.tryFinally fin) := by
  intro d
  refine (hp d).tryFinally fun o d₁ hfirst => ?_
  refine (hfin d₁).mono fun o' d' hrest => ?_
  cases o' with
  | ret u => exact trans_of R hfirst hrest
  | raise e => exact trans_of R hfirst hrest

end Preorder

section Invariants

variable {I : D → Prop}

/-- An invariant that holds before still holds. -/
def Stays (I : D → Prop) (d d' : D) : Prop := I d → I d'

instance : IsPreorder D (Stays I) where
  refl _ h := h
  trans _ _ _ h h' hd := h' (h hd)

/-- An invariant that a program keeps, from a state where it holds. -/
theorem Preserves.ensures {p : Prog S Unit α} {d : D} (h : Preserves serve (Stays I) p)
    (hd : I d) : EnsuresOn serve p d fun _ d' => I d' :=
  (h d).mono fun _ _ hstays => hstays hd

end Invariants

end PamMvp.PreservingPrograms
