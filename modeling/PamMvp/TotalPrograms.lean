import PamMvp.SharedPrograms

/-!
# Programs that must end

`TotalOn` is the weakest precondition of a program on a server: every call finds an
answer, and whatever the answers are, the program ends, and ends in `Q`.
-/
namespace PamMvp.TotalPrograms
open InteractionPrograms SharedPrograms

variable {S : Signature} {α β D : Type} {serve : Server S D} {d : D}

def TotalOn (serve : Server S D) (Q : Outcome S α → D → Prop) : Prog S Unit α → D → Prop
  | .ret a, d => Q (.ret a) d
  | .raise e, d => Q (.raise e) d
  | .diverge, _ => False
  | .get k, d => TotalOn serve Q (k ()) d
  | .set _ k, d => TotalOn serve Q k d
  | .call c k, d => (∃ r d', serve d c r d') ∧ ∀ r d', serve d c r d' → TotalOn serve Q (k r) d'

theorem TotalOn.ensures {p : Prog S Unit α} {Q : Outcome S α → D → Prop}
    (h : TotalOn serve Q p d) : EnsuresOn serve p d Q := by
  induction p generalizing d with
  | ret a => exact ensuresOn_ret a h
  | raise e => exact ensuresOn_raise e h
  | diverge => exact h.elim
  | get k ih => exact ih () h
  | set m k ih => exact ih h
  | call c k ih =>
    intro o d' hrun
    obtain ⟨r, d₁, hserve, hrest⟩ := hrun
    exact ih r (h.2 r d₁ hserve) o d' hrest

theorem TotalOn.runs {p : Prog S Unit α} {Q : Outcome S α → D → Prop}
    (h : TotalOn serve Q p d) : ∃ o d', RunsOn serve p d o d' := by
  induction p generalizing d with
  | ret a => exact ⟨.ret a, d, rfl, rfl⟩
  | raise e => exact ⟨.raise e, d, rfl, rfl⟩
  | diverge => exact h.elim
  | get k ih => exact ih () h
  | set m k ih => exact ih h
  | call c k ih =>
    obtain ⟨⟨r, d₁, hserve⟩, hrest⟩ := h
    obtain ⟨o, d', hrun⟩ := ih r (hrest r d₁ hserve)
    exact ⟨o, d', r, d₁, hserve, hrun⟩

theorem TotalOn.mono {p : Prog S Unit α} {Q R : Outcome S α → D → Prop}
    (h : TotalOn serve Q p d) (hQR : ∀ o d', Q o d' → R o d') : TotalOn serve R p d := by
  induction p generalizing d with
  | ret a => exact hQR _ _ h
  | raise e => exact hQR _ _ h
  | diverge => exact h
  | get k ih => exact ih () h
  | set m k ih => exact ih h
  | call c k ih => exact ⟨h.1, fun r d' hserve => ih r (h.2 r d' hserve)⟩

theorem totalOn_perform {c : S.Call} {Q : Outcome S (S.Answer c) → D → Prop}
    (hanswered : ∃ r d', serve d c r d')
    (hok : ∀ a d', serve d c (.ok a) d' → Q (.ret a) d')
    (herror : ∀ e d', serve d c (.error e) d' → Q (.raise e) d') :
    TotalOn serve Q (Prog.perform c) d := by
  refine ⟨hanswered, fun r d' hserve => ?_⟩
  cases r with
  | ok a => exact hok a d' hserve
  | error e => exact herror e d' hserve

theorem TotalOn.bind {p : Prog S Unit α} {f : α → Prog S Unit β} {P : Outcome S α → D → Prop}
    {Q : Outcome S β → D → Prop} (hp : TotalOn serve P p d)
    (hret : ∀ a d', P (.ret a) d' → TotalOn serve Q (f a) d')
    (hraise : ∀ e d', P (.raise e) d' → Q (.raise e) d') : TotalOn serve Q (p >>= f) d := by
  induction p generalizing d with
  | ret a => exact hret a d hp
  | raise e => exact hraise e d hp
  | diverge => exact hp
  | get k ih => exact ih () hp
  | set m k ih => exact ih hp
  | call c k ih => exact ⟨hp.1, fun r d' hserve => ih r (hp.2 r d' hserve)⟩

theorem TotalOn.tryExcept {p : Prog S Unit α} {h : S.Exn → Prog S Unit α}
    {P Q : Outcome S α → D → Prop} (hp : TotalOn serve P p d)
    (hret : ∀ a d', P (.ret a) d' → Q (.ret a) d')
    (hraise : ∀ e d', P (.raise e) d' → TotalOn serve Q (h e) d') :
    TotalOn serve Q (p.tryExcept h) d := by
  induction p generalizing d with
  | ret a => exact hret a d hp
  | raise e => exact hraise e d hp
  | diverge => exact hp
  | get k ih => exact ih () hp
  | set m k ih => exact ih hp
  | call c k ih => exact ⟨hp.1, fun r d' hserve => ih r (hp.2 r d' hserve)⟩

theorem TotalOn.tryFinally {p : Prog S Unit α} {fin : Prog S Unit Unit}
    {P Q : Outcome S α → D → Prop} (hp : TotalOn serve P p d)
    (hfin : ∀ o d', P o d' → TotalOn serve (fun o' d'' => match o' with
      | .ret _ => Q o d''
      | .raise e => Q (.raise e) d'') fin d') : TotalOn serve Q (p.tryFinally fin) d := by
  induction p generalizing d with
  | ret a => exact (hfin _ d hp).bind (fun _ _ h => h) fun _ _ h => h
  | raise e => exact (hfin _ d hp).bind (fun _ _ h => h) fun _ _ h => h
  | diverge => exact hp
  | get k ih => exact ih () hp
  | set m k ih => exact ih hp
  | call c k ih => exact ⟨hp.1, fun r d' hserve => ih r (hp.2 r d' hserve)⟩

/-- The rule for a call with one possible answer and what follows it. -/
theorem totalOn_answered_bind {c : S.Call} {p : S.Answer c → Prog S Unit α} {a : S.Answer c}
    {d₁ : D} {Q : Outcome S α → D → Prop}
    (hanswer : ∀ r d', serve d c r d' ↔ r = .ok a ∧ d' = d₁) (h : TotalOn serve Q (p a) d₁) :
    TotalOn serve Q (Prog.perform c >>= p) d := by
  have hcall : TotalOn serve (fun o d' => o = .ret a ∧ d' = d₁) (Prog.perform c) d := by
    refine totalOn_perform ⟨.ok a, d₁, (hanswer _ _).mpr ⟨rfl, rfl⟩⟩ ?_ ?_
    · intro b d' hserve
      obtain ⟨hb, hd⟩ := (hanswer _ _).mp hserve
      exact ⟨congrArg Outcome.ret (Except.ok.inj hb), hd⟩
    · intro e d' hserve
      cases ((hanswer _ _).mp hserve).1
  refine hcall.bind (fun b d' hret => ?_) fun e d' hraise => ?_
  · obtain ⟨hb, rfl⟩ := hret
    cases hb
    exact h
  · cases hraise.1

end PamMvp.TotalPrograms
