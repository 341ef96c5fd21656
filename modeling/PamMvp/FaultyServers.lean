import PamMvp.SharedPrograms

/-!
# Servers whose calls can fail

A call fails before it is answered, after a part of it or after all of it, and the caller
cannot tell. What is true after every answer, and after the part, is true after a failure.
A program that ends with the first call that fails can be run on another server, if the two
agree on the calls that succeed.
-/
namespace PamMvp.FaultyServers
open InteractionPrograms SharedPrograms

variable {S : Signature} {α D : Type} {serve : Server S D} {part : D → S.Call → D → Prop}
  {c : S.Call} {d d' : D}

/-- The answers of a server, and failures of its calls. -/
def Faulty (serve : Server S D) (part : D → S.Call → D → Prop) : Server S D := fun d c r d' =>
  serve d c r d' ∨ (∃ e, r = .error e) ∧ (part d c d' ∨ ∃ a, serve d c (.ok a) d')

/-- A call that succeeds is answered. -/
theorem faulty_ok {a : S.Answer c} (h : Faulty serve part d c (.ok a) d') :
    serve d c (.ok a) d' := by
  rcases h with h | ⟨⟨e, he⟩, -⟩
  · exact h
  · cases he

theorem Faulty.keeps {Q : D → Prop} {r : Reply S c} (h : Faulty serve part d c r d')
    (hserve : ∀ r, serve d c r d' → Q d') (hpart : part d c d' → Q d') : Q d' := by
  rcases h with h | ⟨-, h | ⟨a, h⟩⟩
  · exact hserve r h
  · exact hpart h
  · exact hserve (.ok a) h

section Stops

variable {β : Type} {P : S.Call → Prop}

/-- The program makes calls with `P` only, and ends with the first one that fails. -/
def Stops (P : S.Call → Prop) : Prog S Unit α → Prop
  | .ret _ => True
  | .raise _ => True
  | .diverge => True
  | .get k => Stops P (k ())
  | .set _ k => Stops P k
  | .call c k => P c ∧ (∀ e, k (.error e) = .raise e) ∧ ∀ a, Stops P (k (.ok a))

theorem stops_pure (a : α) : Stops P (pure a : Prog S Unit α) := trivial

theorem stops_raise (e : S.Exn) : Stops P (.raise e : Prog S Unit α) := trivial

theorem stops_perform {c : S.Call} (hc : P c) : Stops P (Prog.perform c : Prog S Unit _) :=
  ⟨hc, fun _ => rfl, fun _ => trivial⟩

theorem stops_ofReply (r : Except S.Exn α) : Stops P (Prog.ofReply r : Prog S Unit α) := by
  cases r with
  | ok a => trivial
  | error e => trivial

theorem Stops.bind {p : Prog S Unit α} {f : α → Prog S Unit β} (hp : Stops P p)
    (hf : ∀ a, Stops P (f a)) : Stops P (p >>= f) := by
  induction p with
  | ret a => exact hf a
  | raise e => trivial
  | diverge => trivial
  | get k ih => exact ih () hp
  | set m k ih => exact ih hp
  | call c k ih =>
    obtain ⟨hc, hstops, hrest⟩ := hp
    refine ⟨hc, fun e => ?_, fun a => ih (.ok a) (hrest a)⟩
    have herror : (k (.error e)).bind f = .raise e := by
      rw [hstops e]
      rfl
    exact herror

variable {serve' : Server S D} {I : D → Prop} {R : D → D → Prop} {p : Prog S Unit α}

/-- A run is one of another server, up to what the call that fails has left. -/
theorem Stops.simulated {o : Outcome S α} (hp : Stops P p)
    (hok : ∀ d c a d', P c → I d → serve d c (.ok a) d' → serve' d c (.ok a) d' ∧ I d')
    (herror : ∀ d c e d', P c → I d → serve d c (.error e) d' →
      ∃ d₁, serve' d c (.error e) d₁ ∧ R d₁ d')
    (hd : I d) (hrun : RunsOn serve p d o d') :
    (RunsOn serve' p d o d' ∧ I d') ∨
      ∃ e d₁, o = .raise e ∧ RunsOn serve' p d o d₁ ∧ R d₁ d' := by
  induction p generalizing d with
  | ret a =>
    obtain ⟨rfl, rfl⟩ := hrun
    exact .inl ⟨⟨rfl, rfl⟩, hd⟩
  | raise e =>
    obtain ⟨rfl, rfl⟩ := hrun
    exact .inl ⟨⟨rfl, rfl⟩, hd⟩
  | diverge => exact hrun.elim
  | get k ih => exact ih () hp hd hrun
  | set m k ih => exact ih hp hd hrun
  | call c k ih =>
    obtain ⟨hc, hstops, hrest⟩ := hp
    obtain ⟨r, d₁, hserve, hrun⟩ := hrun
    cases r with
    | ok a =>
      obtain ⟨hserve', hd₁⟩ := hok d c a d₁ hc hd hserve
      rcases ih (.ok a) (hrest a) hd₁ hrun with ⟨hsame, hd'⟩ | ⟨e, d₂, ho, hother, hrelated⟩
      · exact .inl ⟨⟨.ok a, d₁, hserve', hsame⟩, hd'⟩
      · exact .inr ⟨e, d₂, ho, ⟨.ok a, d₁, hserve', hother⟩, hrelated⟩
    | error e =>
      obtain ⟨d₂, hserve', hrelated⟩ := herror d c e d₁ hc hd hserve
      rw [hstops e] at hrun
      obtain ⟨rfl, rfl⟩ := hrun
      refine .inr ⟨e, d₂, rfl, ⟨.error e, d₂, hserve', ?_⟩, hrelated⟩
      rw [hstops e]
      exact ⟨rfl, rfl⟩

/-- A run that returns is one of every server that gives the same answers. -/
theorem Stops.returned {a : α} (hp : Stops P p)
    (hok : ∀ d c a d', P c → I d → serve d c (.ok a) d' → serve' d c (.ok a) d' ∧ I d')
    (hd : I d) (hrun : RunsOn serve p d (.ret a) d') : RunsOn serve' p d (.ret a) d' := by
  induction p generalizing d with
  | ret b => exact hrun
  | raise e => exact hrun
  | diverge => exact hrun
  | get k ih => exact ih () hp hd hrun
  | set m k ih => exact ih hp hd hrun
  | call c k ih =>
    obtain ⟨hc, hstops, hrest⟩ := hp
    obtain ⟨r, d₁, hserve, hrun⟩ := hrun
    cases r with
    | ok b =>
      obtain ⟨hserve', hd₁⟩ := hok d c b d₁ hc hd hserve
      exact ⟨.ok b, d₁, hserve', ih (.ok b) (hrest b) hd₁ hrun⟩
    | error e =>
      rw [hstops e] at hrun
      cases hrun.1

end Stops

end PamMvp.FaultyServers
