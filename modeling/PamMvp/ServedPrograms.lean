import PamMvp.SharedPrograms

/-!
# Programs with memory on a server

A server that keeps a state of its own answers the calls of a program with memory.
The postconditions speak of the trace, and also of the state the server is left in.
An invariant of single answers holds over every served trace.
-/
namespace PamMvp.ServedPrograms
open InteractionPrograms SharedPrograms

variable {S : Signature} {σ α β D : Type}

/-- The server gives the answers of the trace one after the other. -/
inductive ServedBy (serve : Server S D) : D → List (Event S) → D → Prop where
  | nil (d : D) : ServedBy serve d [] d
  | cons {d d₁ d' : D} {c : S.Call} {r : Reply S c} {tr : List (Event S)}
    (h : serve d c r d₁) (hrest : ServedBy serve d₁ tr d') : ServedBy serve d (⟨c, r⟩ :: tr) d'

/-- Every run of the program from `m` that is served from `d` ends in `Q`. -/
def EnsuresServed (serve : Server S D) (p : Prog S σ α) (m : σ) (d : D)
    (Q : List (Event S) → Outcome S α → σ → D → Prop) : Prop :=
  p.Ensures m fun tr o m' => ∀ d', ServedBy serve d tr d' → Q tr o m' d'

variable {serve : Server S D} {m : σ} {d d' d₁ : D} {tr tr' : List (Event S)}

section Traces

theorem ServedBy.append (h : ServedBy serve d tr d₁) (h' : ServedBy serve d₁ tr' d') :
    ServedBy serve d (tr ++ tr') d' := by
  induction h with
  | nil d => exact h'
  | cons hserve _ ih => exact .cons hserve (ih h')

theorem servedBy_append_iff :
    ServedBy serve d (tr ++ tr') d' ↔ ∃ d₁, ServedBy serve d tr d₁ ∧ ServedBy serve d₁ tr' d' := by
  constructor
  · intro h
    induction tr generalizing d with
    | nil => exact ⟨d, .nil d, h⟩
    | cons ev tr ih =>
      cases h with
      | cons hserve hrest =>
        obtain ⟨d₂, hfirst, hsecond⟩ := ih hrest
        exact ⟨d₂, .cons hserve hfirst, hsecond⟩
  · intro h
    obtain ⟨d₁, hfirst, hsecond⟩ := h
    exact hfirst.append hsecond

theorem servedBy_nil (h : ServedBy serve d [] d') : d' = d := by
  cases h
  rfl

theorem servedBy_single {c : S.Call} {r : Reply S c} (h : ServedBy serve d [⟨c, r⟩] d') :
    serve d c r d' := by
  cases h with
  | cons hserve hrest =>
    obtain rfl := servedBy_nil hrest
    exact hserve

/-- What every answer adds at most one step to, a trace adds at most its length to. -/
theorem ServedBy.bounded {I : ℕ → D → Prop}
    (hstep : ∀ n d c r d', I n d → serve d c r d' → I n d' ∨ I (n + 1) d')
    (h : ServedBy serve d tr d') {n : ℕ} (hd : I n d) : ∃ k, k ≤ n + tr.length ∧ I k d' := by
  induction h generalizing n with
  | nil d => exact ⟨n, Nat.le_add_right _ _, hd⟩
  | cons hserve _ ih =>
    rw [List.length_cons]
    rcases hstep n _ _ _ _ hd hserve with hnext | hnext
    · obtain ⟨k, hk, hI⟩ := ih hnext
      exact ⟨k, by omega, hI⟩
    · obtain ⟨k, hk, hI⟩ := ih hnext
      exact ⟨k, by omega, hI⟩

end Traces

section Rules

theorem EnsuresServed.mono {p : Prog S σ α} {Q R : List (Event S) → Outcome S α → σ → D → Prop}
    (h : EnsuresServed serve p m d Q) (hQR : ∀ tr o m' d', Q tr o m' d' → R tr o m' d') :
    EnsuresServed serve p m d R :=
  Prog.Ensures.mono h fun tr o m' hQ d' hserved => hQR tr o m' d' (hQ d' hserved)

/-- What every run ensures, every served run ensures. -/
theorem ensuresServed_of_ensures {p : Prog S σ α} {Q : List (Event S) → Outcome S α → σ → Prop}
    (h : p.Ensures m Q) : EnsuresServed serve p m d fun tr o m' _ => Q tr o m' :=
  Prog.Ensures.mono h fun _ _ _ hQ _ _ => hQ

theorem EnsuresServed.and {p : Prog S σ α} {Q R : List (Event S) → Outcome S α → σ → D → Prop}
    (hQ : EnsuresServed serve p m d Q) (hR : EnsuresServed serve p m d R) :
    EnsuresServed serve p m d fun tr o m' d' => Q tr o m' d' ∧ R tr o m' d' :=
  fun tr o m' hrun d' hserved => ⟨hQ tr o m' hrun d' hserved, hR tr o m' hrun d' hserved⟩

theorem ensuresServed_pure (a : α) {Q : List (Event S) → Outcome S α → σ → D → Prop}
    (h : Q [] (.ret a) m d) : EnsuresServed serve (pure a) m d Q := by
  refine (Prog.ensures_pure a m _).mpr fun d' hserved => ?_
  rw [servedBy_nil hserved]
  exact h

theorem ensuresServed_perform {c : S.Call}
    {Q : List (Event S) → Outcome S (S.Answer c) → σ → D → Prop}
    (hok : ∀ a d', serve d c (.ok a) d' → Q [⟨c, .ok a⟩] (.ret a) m d')
    (herror : ∀ e d', serve d c (.error e) d' → Q [⟨c, .error e⟩] (.raise e) m d') :
    EnsuresServed serve (Prog.perform c) m d Q := by
  refine (Prog.ensures_perform c m _).mpr ⟨fun a d' hserved => ?_, fun e d' hserved => ?_⟩
  · exact hok a d' (servedBy_single hserved)
  · exact herror e d' (servedBy_single hserved)

theorem EnsuresServed.bind {p : Prog S σ α} {f : α → Prog S σ β}
    {P : List (Event S) → Outcome S α → σ → D → Prop}
    {Q : List (Event S) → Outcome S β → σ → D → Prop} (hp : EnsuresServed serve p m d P)
    (hret : ∀ tr a m' d', P tr (.ret a) m' d' →
      EnsuresServed serve (f a) m' d' fun tr' o m'' d'' => Q (tr ++ tr') o m'' d'')
    (hraise : ∀ tr e m' d', P tr (.raise e) m' d' → Q tr (.raise e) m' d') :
    EnsuresServed serve (p >>= f) m d Q := by
  refine (Prog.ensures_bind' p f m _).mpr (Prog.Ensures.mono hp fun tr o m' h => ?_)
  cases o with
  | ret a =>
    intro tr' o' m'' hrun d'' hserved
    obtain ⟨d₁, hfirst, hsecond⟩ := servedBy_append_iff.mp hserved
    exact hret tr a m' d₁ (h d₁ hfirst) tr' o' m'' hrun d'' hsecond
  | raise e => exact fun d' hserved => hraise tr e m' d' (h d' hserved)

theorem EnsuresServed.tryExcept {p : Prog S σ α} {h : S.Exn → Prog S σ α}
    {P Q : List (Event S) → Outcome S α → σ → D → Prop} (hp : EnsuresServed serve p m d P)
    (hret : ∀ tr a m' d', P tr (.ret a) m' d' → Q tr (.ret a) m' d')
    (hraise : ∀ tr e m' d', P tr (.raise e) m' d' →
      EnsuresServed serve (h e) m' d' fun tr' o m'' d'' => Q (tr ++ tr') o m'' d'') :
    EnsuresServed serve (p.tryExcept h) m d Q := by
  refine (Prog.ensures_tryExcept p h m _).mpr (Prog.Ensures.mono hp fun tr o m' ho => ?_)
  cases o with
  | ret a => exact fun d' hserved => hret tr a m' d' (ho d' hserved)
  | raise e =>
    intro tr' o' m'' hrun d'' hserved
    obtain ⟨d₁, hfirst, hsecond⟩ := servedBy_append_iff.mp hserved
    exact hraise tr e m' d₁ (ho d₁ hfirst) tr' o' m'' hrun d'' hsecond

/-- The rule for one call and what follows it. -/
theorem ensuresServed_call_bind {c : S.Call} {f : S.Answer c → Prog S σ β}
    {Q : List (Event S) → Outcome S β → σ → D → Prop}
    (hok : ∀ a d', serve d c (.ok a) d' →
      EnsuresServed serve (f a) m d' fun tr o m' d'' => Q (⟨c, .ok a⟩ :: tr) o m' d'')
    (herror : ∀ e d', serve d c (.error e) d' → Q [⟨c, .error e⟩] (.raise e) m d') :
    EnsuresServed serve (Prog.perform c >>= f) m d Q := by
  have hperform : EnsuresServed serve (Prog.perform c) m d fun tr o m' d' => m' = m ∧
      ((∃ a, tr = [⟨c, .ok a⟩] ∧ o = .ret a ∧ serve d c (.ok a) d') ∨
        ∃ e, tr = [⟨c, .error e⟩] ∧ o = .raise e ∧ serve d c (.error e) d') :=
    ensuresServed_perform (fun a d' h => ⟨rfl, .inl ⟨a, rfl, rfl, h⟩⟩)
      fun e d' h => ⟨rfl, .inr ⟨e, rfl, rfl, h⟩⟩
  refine hperform.bind (fun tr a m' d' h => ?_) fun tr e m' d' h => ?_
  · obtain ⟨rfl, ⟨b, rfl, ho, hserve⟩ | ⟨e, -, ho, -⟩⟩ := h
    · cases ho
      exact hok a d' hserve
    · cases ho
  · obtain ⟨rfl, ⟨b, -, ho, -⟩ | ⟨e', rfl, ho, hserve⟩⟩ := h
    · cases ho
    · cases ho
      exact herror e d' hserve

theorem ensuresServed_modify_bind (g : σ → σ) {f : Unit → Prog S σ α}
    {Q : List (Event S) → Outcome S α → σ → D → Prop}
    (h : EnsuresServed serve (f ()) (g m) d Q) :
    EnsuresServed serve (Prog.modify g >>= f) m d Q := by
  refine (Prog.ensures_bind' _ f m _).mpr ((Prog.ensures_modify g m _).mpr ?_)
  exact h

end Rules

end PamMvp.ServedPrograms
