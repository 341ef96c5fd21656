import PamMvp.ServedPrograms

/-!
# Programs without a cut-off loop

A program is ending when no path through it is cut off. On a server that has some answer
to every call in every state such a program always has a run, so that a statement about
all its runs is not an empty one.
-/
namespace PamMvp.EndingPrograms
open InteractionPrograms SharedPrograms ServedPrograms

variable {S : Signature} {σ α β D : Type}

inductive Ending : Prog S σ α → Prop where
  | ret (a : α) : Ending (.ret a)
  | raise (e : S.Exn) : Ending (.raise e)
  | get {k : σ → Prog S σ α} (h : ∀ m, Ending (k m)) : Ending (.get k)
  | set {m : σ} {k : Prog S σ α} (h : Ending k) : Ending (.set m k)
  | call {c : S.Call} {k : Reply S c → Prog S σ α} (h : ∀ r, Ending (k r)) : Ending (.call c k)

theorem ending_pure (a : α) : Ending (pure a : Prog S σ α) := .ret a

theorem ending_ofReply (r : Except S.Exn α) : Ending (Prog.ofReply r : Prog S σ α) := by
  cases r with
  | ok a => exact .ret a
  | error e => exact .raise e

theorem ending_perform (c : S.Call) : Ending (Prog.perform c : Prog S σ (S.Answer c)) :=
  .call ending_ofReply

theorem ending_memory : Ending (Prog.memory : Prog S σ σ) := .get .ret

theorem ending_modify (f : σ → σ) : Ending (Prog.modify f : Prog S σ Unit) :=
  .get fun _ => .set (.ret ())

theorem Ending.bind {p : Prog S σ α} {f : α → Prog S σ β} (hp : Ending p)
    (hf : ∀ a, Ending (f a)) : Ending (p >>= f) := by
  induction hp with
  | ret a => exact hf a
  | raise e => exact .raise e
  | get _ ih => exact .get ih
  | set _ ih => exact .set ih
  | call _ ih => exact .call ih

theorem Ending.tryExcept {p : Prog S σ α} {h : S.Exn → Prog S σ α} (hp : Ending p)
    (hh : ∀ e, Ending (h e)) : Ending (p.tryExcept h) := by
  induction hp with
  | ret a => exact .ret a
  | raise e => exact hh e
  | get _ ih => exact .get ih
  | set _ ih => exact .set ih
  | call _ ih => exact .call ih

theorem Ending.tryFinally {p : Prog S σ α} {fin : Prog S σ Unit} (hp : Ending p)
    (hfin : Ending fin) : Ending (p.tryFinally fin) := by
  induction hp with
  | ret a => exact hfin.bind fun _ => .ret a
  | raise e => exact hfin.bind fun _ => .raise e
  | get _ ih => exact .get ih
  | set _ ih => exact .set ih
  | call _ ih => exact .call ih

/-- An ending program has a run on a server that always answers. -/
theorem Ending.served {serve : Server S D} (hserve : ∀ d c, ∃ r d', serve d c r d')
    {p : Prog S σ α} (hp : Ending p) (m : σ) (d : D) :
    ∃ tr o m' d', p.Run m tr o m' ∧ ServedBy serve d tr d' := by
  induction hp generalizing m d with
  | ret a => exact ⟨[], .ret a, m, d, ⟨rfl, rfl, rfl⟩, .nil d⟩
  | raise e => exact ⟨[], .raise e, m, d, ⟨rfl, rfl, rfl⟩, .nil d⟩
  | get _ ih => exact ih m m d
  | @set m₁ k _ ih => exact ih m₁ d
  | @call c k _ ih =>
    obtain ⟨r, d₁, hanswer⟩ := hserve d c
    obtain ⟨tr, o, m', d', hrun, hserved⟩ := ih r m d₁
    exact ⟨⟨c, r⟩ :: tr, o, m', d', ⟨r, tr, rfl, hrun⟩, .cons hanswer hserved⟩

end PamMvp.EndingPrograms
