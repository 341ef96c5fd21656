import Mathlib.Data.List.Infix

/-!
# Interaction programs and their runs

A program is a tree of calls to an outside world. Every call is answered either
by a value of its answer type or by a raised exception, and the rest of the
program may depend on that answer. A private memory survives exceptions, as the
attributes of mutable objects do. A run is one path through the tree, observed
as the list of answered calls; nothing restricts the answers, so a statement
about all runs covers every behaviour of the world.

`Ensures` is the weakest liberal precondition of a program. Its equations for
sequencing, `try/except` and `try/finally` are the only rules used later.
-/
namespace PamMvp.InteractionPrograms

structure Signature where
  Call : Type
  Answer : Call → Type
  Exn : Type

variable {S : Signature} {σ α β : Type}

abbrev Reply (S : Signature) (c : S.Call) : Type := Except S.Exn (S.Answer c)

/-- One answered call. -/
abbrev Event (S : Signature) : Type := (c : S.Call) × Reply S c

inductive Outcome (S : Signature) (α : Type) where
  | ret (a : α)
  | raise (e : S.Exn)

/-- `diverge` marks a loop that was cut off; it has no run. -/
inductive Prog (S : Signature) (σ α : Type) where
  | ret (a : α)
  | raise (e : S.Exn)
  | diverge
  | get (k : σ → Prog S σ α)
  | set (m : σ) (k : Prog S σ α)
  | call (c : S.Call) (k : Reply S c → Prog S σ α)

namespace Prog

def bind : Prog S σ α → (α → Prog S σ β) → Prog S σ β
  | .ret a, f => f a
  | .raise e, _ => .raise e
  | .diverge, _ => .diverge
  | .get k, f => .get fun m => (k m).bind f
  | .set m k, f => .set m (k.bind f)
  | .call c k, f => .call c fun r => (k r).bind f

instance : Monad (Prog S σ) where
  pure := .ret
  bind := bind

theorem bind_ret (p : Prog S σ α) : p.bind .ret = p := by
  induction p with
  | ret a => rfl
  | raise e => rfl
  | diverge => rfl
  | get k ih => simp [bind, ih]
  | set m k ih => simp [bind, ih]
  | call c k ih => simp [bind, ih]

theorem bind_bind {γ : Type} (p : Prog S σ α) (f : α → Prog S σ β) (g : β → Prog S σ γ) :
    (p.bind f).bind g = p.bind fun a => (f a).bind g := by
  induction p with
  | ret a => rfl
  | raise e => rfl
  | diverge => rfl
  | get k ih => simp [bind, ih]
  | set m k ih => simp [bind, ih]
  | call c k ih => simp [bind, ih]

instance : LawfulMonad (Prog S σ) :=
  LawfulMonad.mk' _ (fun p => bind_ret p) (fun _ _ => rfl) fun p f g => bind_bind p f g

/-- The effect of a reply on the caller: its value, or its exception. -/
def ofReply : Except S.Exn α → Prog S σ α
  | .ok a => .ret a
  | .error e => .raise e

def perform (c : S.Call) : Prog S σ (S.Answer c) := .call c ofReply

def memory : Prog S σ σ := .get .ret

def modify (f : σ → σ) : Prog S σ Unit := .get fun m => .set (f m) (.ret ())

/-- `try: p` with one handler that sees every exception of `p`. -/
def tryExcept : Prog S σ α → (S.Exn → Prog S σ α) → Prog S σ α
  | .ret a, _ => .ret a
  | .raise e, h => h e
  | .diverge, _ => .diverge
  | .get k, h => .get fun m => (k m).tryExcept h
  | .set m k, h => .set m (k.tryExcept h)
  | .call c k, h => .call c fun r => (k r).tryExcept h

/-- `try: p finally: fin`. An exception of `fin` replaces the outcome of `p`. -/
def tryFinally : Prog S σ α → Prog S σ Unit → Prog S σ α
  | .ret a, fin => fin.bind fun _ => .ret a
  | .raise e, fin => fin.bind fun _ => .raise e
  | .diverge, _ => .diverge
  | .get k, fin => .get fun m => (k m).tryFinally fin
  | .set m k, fin => .set m (k.tryFinally fin)
  | .call c k, fin => .call c fun r => (k r).tryFinally fin

/-- `Run p m tr o m'`: started with memory `m`, the program can see exactly the
answered calls `tr` and then ends with outcome `o` and memory `m'`. -/
def Run : Prog S σ α → σ → List (Event S) → Outcome S α → σ → Prop
  | .ret a, m, tr, o, m' => tr = [] ∧ o = .ret a ∧ m' = m
  | .raise e, m, tr, o, m' => tr = [] ∧ o = .raise e ∧ m' = m
  | .diverge, _, _, _, _ => False
  | .get k, m, tr, o, m' => (k m).Run m tr o m'
  | .set m₁ k, _, tr, o, m' => k.Run m₁ tr o m'
  | .call c k, m, tr, o, m' => ∃ r tr', tr = ⟨c, r⟩ :: tr' ∧ (k r).Run m tr' o m'

/-- Every run from `m` ends in `Q`. -/
def Ensures (p : Prog S σ α) (m : σ) (Q : List (Event S) → Outcome S α → σ → Prop) : Prop :=
  ∀ tr o m', p.Run m tr o m' → Q tr o m'

theorem Ensures.mono {p : Prog S σ α} {m : σ} {Q R : List (Event S) → Outcome S α → σ → Prop}
    (h : p.Ensures m Q) (hQR : ∀ tr o m', Q tr o m' → R tr o m') : p.Ensures m R :=
  fun tr o m' hr => hQR tr o m' (h tr o m' hr)

theorem Ensures.and {p : Prog S σ α} {m : σ} {Q R : List (Event S) → Outcome S α → σ → Prop}
    (hQ : p.Ensures m Q) (hR : p.Ensures m R) : p.Ensures m fun tr o m' => Q tr o m' ∧ R tr o m' :=
  fun tr o m' hr => ⟨hQ tr o m' hr, hR tr o m' hr⟩

@[simp] theorem ensures_ret (a : α) (m : σ) (Q : List (Event S) → Outcome S α → σ → Prop) :
    (Prog.ret a).Ensures m Q ↔ Q [] (.ret a) m := by
  constructor
  · intro h
    exact h [] (.ret a) m ⟨rfl, rfl, rfl⟩
  · rintro h tr o m' ⟨rfl, rfl, rfl⟩
    exact h

@[simp] theorem ensures_pure (a : α) (m : σ) (Q : List (Event S) → Outcome S α → σ → Prop) :
    (pure a : Prog S σ α).Ensures m Q ↔ Q [] (.ret a) m :=
  ensures_ret a m Q

@[simp] theorem ensures_raise (e : S.Exn) (m : σ)
    (Q : List (Event S) → Outcome S α → σ → Prop) :
    (Prog.raise e).Ensures m Q ↔ Q [] (.raise e) m := by
  constructor
  · intro h
    exact h [] (.raise e) m ⟨rfl, rfl, rfl⟩
  · rintro h tr o m' ⟨rfl, rfl, rfl⟩
    exact h

@[simp] theorem ensures_diverge (m : σ) (Q : List (Event S) → Outcome S α → σ → Prop) :
    (Prog.diverge).Ensures m Q ↔ True :=
  ⟨fun _ => trivial, fun _ _ _ _ h => h.elim⟩

@[simp] theorem ensures_get (k : σ → Prog S σ α) (m : σ)
    (Q : List (Event S) → Outcome S α → σ → Prop) :
    (Prog.get k).Ensures m Q ↔ (k m).Ensures m Q :=
  Iff.rfl

@[simp] theorem ensures_set (m₁ : σ) (k : Prog S σ α) (m : σ)
    (Q : List (Event S) → Outcome S α → σ → Prop) :
    (Prog.set m₁ k).Ensures m Q ↔ k.Ensures m₁ Q :=
  Iff.rfl

@[simp] theorem ensures_call (c : S.Call) (k : Reply S c → Prog S σ α) (m : σ)
    (Q : List (Event S) → Outcome S α → σ → Prop) :
    (Prog.call c k).Ensures m Q ↔
      ∀ r, (k r).Ensures m fun tr o m' => Q (⟨c, r⟩ :: tr) o m' := by
  constructor
  · intro h r tr o m' hr
    exact h (⟨c, r⟩ :: tr) o m' ⟨r, tr, rfl, hr⟩
  · rintro h _ o m' ⟨r, tr, rfl, hr⟩
    exact h r tr o m' hr

/-- What a postcondition asks of a first part when `f` runs after it. -/
def Then (f : α → Prog S σ β) (Q : List (Event S) → Outcome S β → σ → Prop)
    (tr : List (Event S)) : Outcome S α → σ → Prop
  | .ret a, m => (f a).Ensures m fun tr' o m' => Q (tr ++ tr') o m'
  | .raise e, m => Q tr (.raise e) m

/-- What a postcondition asks of a body guarded by the handler `h`. -/
def Handled (h : S.Exn → Prog S σ α) (Q : List (Event S) → Outcome S α → σ → Prop)
    (tr : List (Event S)) : Outcome S α → σ → Prop
  | .ret a, m => Q tr (.ret a) m
  | .raise e, m => (h e).Ensures m fun tr' o m' => Q (tr ++ tr') o m'

/-- What a postcondition asks of a body followed by the cleanup `fin`. -/
def Cleaned (fin : Prog S σ Unit) (Q : List (Event S) → Outcome S α → σ → Prop)
    (tr : List (Event S)) (o : Outcome S α) (m : σ) : Prop :=
  fin.Ensures m fun tr' o' m' => match o' with
    | .ret _ => Q (tr ++ tr') o m'
    | .raise e => Q (tr ++ tr') (.raise e) m'

theorem ensures_bind (p : Prog S σ α) (f : α → Prog S σ β) (m : σ)
    (Q : List (Event S) → Outcome S β → σ → Prop) :
    (p.bind f).Ensures m Q ↔ p.Ensures m (Then f Q) := by
  induction p generalizing m Q with
  | ret a => simp [bind, Then]
  | raise e => simp [bind, Then]
  | diverge => simp [bind]
  | get k ih => simp [bind, ih]
  | set m₁ k ih => simp [bind, ih]
  | call c k ih =>
    simp only [bind, ensures_call, ih]
    refine forall_congr' fun r => ?_
    constructor <;> refine fun h => h.mono fun tr o m' ho => ?_ <;>
      cases o <;> simpa [Then] using ho

@[simp] theorem ensures_bind' (p : Prog S σ α) (f : α → Prog S σ β) (m : σ)
    (Q : List (Event S) → Outcome S β → σ → Prop) :
    (p >>= f).Ensures m Q ↔ p.Ensures m (Then f Q) :=
  ensures_bind p f m Q

@[simp] theorem ensures_map (g : α → β) (p : Prog S σ α) (m : σ)
    (Q : List (Event S) → Outcome S β → σ → Prop) :
    (g <$> p).Ensures m Q ↔ p.Ensures m (Then (fun a => .ret (g a)) Q) :=
  ensures_bind p (fun a => .ret (g a)) m Q

theorem ensures_tryExcept (p : Prog S σ α) (h : S.Exn → Prog S σ α) (m : σ)
    (Q : List (Event S) → Outcome S α → σ → Prop) :
    (p.tryExcept h).Ensures m Q ↔ p.Ensures m (Handled h Q) := by
  induction p generalizing m Q with
  | ret a => simp [tryExcept, Handled]
  | raise e => simp [tryExcept, Handled]
  | diverge => simp [tryExcept]
  | get k ih => simp [tryExcept, ih]
  | set m₁ k ih => simp [tryExcept, ih]
  | call c k ih =>
    simp only [tryExcept, ensures_call, ih]
    refine forall_congr' fun r => ?_
    constructor <;> refine fun h => h.mono fun tr o m' ho => ?_ <;>
      cases o <;> simpa [Handled] using ho

theorem ensures_tryFinally (p : Prog S σ α) (fin : Prog S σ Unit) (m : σ)
    (Q : List (Event S) → Outcome S α → σ → Prop) :
    (p.tryFinally fin).Ensures m Q ↔ p.Ensures m (Cleaned fin Q) := by
  have hend (o : Outcome S α) (m₁ : σ) (q : Prog S σ α)
      (hq : ∀ m R, q.Ensures m R ↔ R [] o m) (R : List (Event S) → Outcome S α → σ → Prop) :
      (fin.bind fun _ => q).Ensures m₁ R ↔ Cleaned fin R [] o m₁ := by
    rw [ensures_bind]
    constructor <;> refine fun h => h.mono fun tr o' m' ho => ?_ <;>
      cases o' <;> simpa [Then, hq] using ho
  induction p generalizing m Q with
  | ret a => simpa [tryFinally] using hend (.ret a) m (.ret a) (fun m R => ensures_ret a m R) Q
  | raise e =>
    simpa [tryFinally] using hend (.raise e) m (.raise e) (fun m R => ensures_raise e m R) Q
  | diverge => simp [tryFinally]
  | get k ih => simp [tryFinally, ih]
  | set m₁ k ih => simp [tryFinally, ih]
  | call c k ih =>
    simp only [tryFinally, ensures_call, ih]
    refine forall_congr' fun r => ?_
    constructor <;> refine fun h => h.mono fun tr o m' ho => ?_ <;>
      simpa [Cleaned] using ho

@[simp] theorem ensures_perform (c : S.Call) (m : σ)
    (Q : List (Event S) → Outcome S (S.Answer c) → σ → Prop) :
    (perform c : Prog S σ (S.Answer c)).Ensures m Q ↔
      (∀ a, Q [⟨c, .ok a⟩] (.ret a) m) ∧ ∀ e, Q [⟨c, .error e⟩] (.raise e) m := by
  simp only [perform, ensures_call]
  constructor
  · intro h
    exact ⟨fun a => by simpa [ofReply] using h (.ok a),
      fun e => by simpa [ofReply] using h (.error e)⟩
  · rintro ⟨hok, herr⟩ (e | a)
    · simpa [ofReply] using herr e
    · simpa [ofReply] using hok a

@[simp] theorem ensures_memory (m : σ) (Q : List (Event S) → Outcome S σ → σ → Prop) :
    (memory : Prog S σ σ).Ensures m Q ↔ Q [] (.ret m) m := by
  simp [memory]

@[simp] theorem ensures_modify (f : σ → σ) (m : σ)
    (Q : List (Event S) → Outcome S Unit → σ → Prop) :
    (modify f : Prog S σ Unit).Ensures m Q ↔ Q [] (.ret ()) (f m) := by
  simp [modify]

theorem Ensures.bind {p : Prog S σ α} {f : α → Prog S σ β} {m : σ}
    {P : List (Event S) → Outcome S α → σ → Prop} {Q : List (Event S) → Outcome S β → σ → Prop}
    (hp : p.Ensures m P)
    (hret : ∀ tr a m', P tr (.ret a) m' → (f a).Ensures m' fun tr' o m'' => Q (tr ++ tr') o m'')
    (hraise : ∀ tr e m', P tr (.raise e) m' → Q tr (.raise e) m') : (p >>= f).Ensures m Q := by
  rw [ensures_bind']
  refine hp.mono fun tr o m' h => ?_
  cases o with
  | ret a => exact hret tr a m' h
  | raise e => exact hraise tr e m' h

theorem Ensures.tryExcept {p : Prog S σ α} {h : S.Exn → Prog S σ α} {m : σ}
    {P Q : List (Event S) → Outcome S α → σ → Prop} (hp : p.Ensures m P)
    (hret : ∀ tr a m', P tr (.ret a) m' → Q tr (.ret a) m')
    (hraise : ∀ tr e m', P tr (.raise e) m' →
      (h e).Ensures m' fun tr' o m'' => Q (tr ++ tr') o m'') : (p.tryExcept h).Ensures m Q := by
  rw [ensures_tryExcept]
  refine hp.mono fun tr o m' ho => ?_
  cases o with
  | ret a => exact hret tr a m' ho
  | raise e => exact hraise tr e m' ho

theorem Ensures.tryFinally {p : Prog S σ α} {fin : Prog S σ Unit} {m : σ}
    {P Q : List (Event S) → Outcome S α → σ → Prop} (hp : p.Ensures m P)
    (hfin : ∀ tr o m', P tr o m' → Cleaned fin Q tr o m') : (p.tryFinally fin).Ensures m Q := by
  rw [ensures_tryFinally]
  exact hp.mono hfin

/-- Every run from `m` whose answered calls all satisfy `A` ends in `Q`. -/
def EnsuresWhen (A : Event S → Prop) (p : Prog S σ α) (m : σ)
    (Q : List (Event S) → Outcome S α → σ → Prop) : Prop :=
  p.Ensures m fun tr o m' => (∀ ev ∈ tr, A ev) → Q tr o m'

section

variable {A : Event S → Prop}

theorem Ensures.when {p : Prog S σ α} {m : σ} {Q : List (Event S) → Outcome S α → σ → Prop}
    (h : p.Ensures m Q) : p.EnsuresWhen A m Q :=
  h.mono fun _ _ _ hq _ => hq

theorem EnsuresWhen.mono {p : Prog S σ α} {m : σ}
    {Q R : List (Event S) → Outcome S α → σ → Prop} (h : p.EnsuresWhen A m Q)
    (hQR : ∀ tr o m', Q tr o m' → R tr o m') : p.EnsuresWhen A m R :=
  Ensures.mono h fun tr o m' hq hA => hQR tr o m' (hq hA)

theorem EnsuresWhen.bind {p : Prog S σ α} {f : α → Prog S σ β} {m : σ}
    {P : List (Event S) → Outcome S α → σ → Prop} {Q : List (Event S) → Outcome S β → σ → Prop}
    (hp : p.EnsuresWhen A m P)
    (hret : ∀ tr a m', P tr (.ret a) m' →
      (f a).EnsuresWhen A m' fun tr' o m'' => Q (tr ++ tr') o m'')
    (hraise : ∀ tr e m', P tr (.raise e) m' → Q tr (.raise e) m') :
    (p >>= f).EnsuresWhen A m Q := by
  rw [EnsuresWhen, ensures_bind']
  refine Ensures.mono hp fun tr o m' h => ?_
  cases o with
  | ret a =>
    intro tr' o m'' hrun hA
    have hP := h fun ev hev => hA ev (List.mem_append_left _ hev)
    exact hret tr a m' hP tr' o m'' hrun fun ev hev => hA ev (List.mem_append_right _ hev)
  | raise e => exact fun hA => hraise tr e m' (h hA)

theorem EnsuresWhen.tryExcept {p : Prog S σ α} {h : S.Exn → Prog S σ α} {m : σ}
    {P Q : List (Event S) → Outcome S α → σ → Prop} (hp : p.EnsuresWhen A m P)
    (hret : ∀ tr a m', P tr (.ret a) m' → Q tr (.ret a) m')
    (hraise : ∀ tr e m', P tr (.raise e) m' →
      (h e).EnsuresWhen A m' fun tr' o m'' => Q (tr ++ tr') o m'') :
    (p.tryExcept h).EnsuresWhen A m Q := by
  rw [EnsuresWhen, ensures_tryExcept]
  refine Ensures.mono hp fun tr o m' ho => ?_
  cases o with
  | ret a => exact fun hA => hret tr a m' (ho hA)
  | raise e =>
    intro tr' o m'' hrun hA
    have hP := ho fun ev hev => hA ev (List.mem_append_left _ hev)
    exact hraise tr e m' hP tr' o m'' hrun fun ev hev => hA ev (List.mem_append_right _ hev)

theorem EnsuresWhen.tryFinally {p : Prog S σ α} {fin : Prog S σ Unit} {m : σ}
    {P Q : List (Event S) → Outcome S α → σ → Prop} (hp : p.EnsuresWhen A m P)
    (hfin : ∀ tr o m', P tr o m' → fin.EnsuresWhen A m' fun tr' o' m'' =>
      (o' = .ret () → Q (tr ++ tr') o m'') ∧ ∀ e, o' = .raise e → Q (tr ++ tr') (.raise e) m'') :
    (p.tryFinally fin).EnsuresWhen A m Q := by
  rw [EnsuresWhen, ensures_tryFinally]
  refine Ensures.mono hp fun tr o m' ho => ?_
  rw [Cleaned]
  intro tr' o' m'' hrun
  have hboth (hA : ∀ ev ∈ tr ++ tr', A ev) :=
    hfin tr o m' (ho fun ev hev => hA ev (List.mem_append_left _ hev)) tr' o' m'' hrun
      fun ev hev => hA ev (List.mem_append_right _ hev)
  cases o' with
  | ret u => exact fun hA => (hboth hA).1 rfl
  | raise e => exact fun hA => (hboth hA).2 e rfl

@[simp] theorem ensuresWhen_ret (a : α) (m : σ) (Q : List (Event S) → Outcome S α → σ → Prop) :
    (Prog.ret a).EnsuresWhen A m Q ↔ Q [] (.ret a) m := by
  simp [EnsuresWhen]

@[simp] theorem ensuresWhen_pure (a : α) (m : σ) (Q : List (Event S) → Outcome S α → σ → Prop) :
    (pure a : Prog S σ α).EnsuresWhen A m Q ↔ Q [] (.ret a) m := by
  simp [EnsuresWhen]

@[simp] theorem ensuresWhen_raise (e : S.Exn) (m : σ)
    (Q : List (Event S) → Outcome S α → σ → Prop) :
    (Prog.raise e).EnsuresWhen A m Q ↔ Q [] (.raise e) m := by
  simp [EnsuresWhen]

@[simp] theorem ensuresWhen_diverge (m : σ) (Q : List (Event S) → Outcome S α → σ → Prop) :
    (Prog.diverge).EnsuresWhen A m Q ↔ True := by
  simp [EnsuresWhen]

@[simp] theorem ensuresWhen_memory (m : σ) (Q : List (Event S) → Outcome S σ → σ → Prop) :
    (memory : Prog S σ σ).EnsuresWhen A m Q ↔ Q [] (.ret m) m := by
  simp [EnsuresWhen]

@[simp] theorem ensuresWhen_modify (f : σ → σ) (m : σ)
    (Q : List (Event S) → Outcome S Unit → σ → Prop) :
    (modify f : Prog S σ Unit).EnsuresWhen A m Q ↔ Q [] (.ret ()) (f m) := by
  simp [EnsuresWhen]

theorem ensuresWhen_memory_bind (f : σ → Prog S σ α) (m : σ)
    (Q : List (Event S) → Outcome S α → σ → Prop) :
    (memory >>= f).EnsuresWhen A m Q ↔ (f m).EnsuresWhen A m Q :=
  Iff.rfl

theorem ensuresWhen_modify_bind (g : σ → σ) (f : Unit → Prog S σ α) (m : σ)
    (Q : List (Event S) → Outcome S α → σ → Prop) :
    (modify g >>= f).EnsuresWhen A m Q ↔ (f ()).EnsuresWhen A (g m) Q :=
  Iff.rfl

theorem ensuresWhen_perform {c : S.Call} {m : σ}
    {Q : List (Event S) → Outcome S (S.Answer c) → σ → Prop}
    (hok : ∀ a, A ⟨c, .ok a⟩ → Q [⟨c, .ok a⟩] (.ret a) m)
    (herror : ∀ e, A ⟨c, .error e⟩ → Q [⟨c, .error e⟩] (.raise e) m) :
    (perform c : Prog S σ (S.Answer c)).EnsuresWhen A m Q := by
  rw [EnsuresWhen, ensures_perform]
  exact ⟨fun a h => hok a (h _ (by simp)), fun e h => herror e (h _ (by simp))⟩

end

/-- Every call that the program can make satisfies `P`. -/
def OnlyCalls (P : S.Call → Prop) : Prog S σ α → Prop
  | .ret _ | .raise _ | .diverge => True
  | .get k => ∀ m, (k m).OnlyCalls P
  | .set _ k => k.OnlyCalls P
  | .call c k => P c ∧ ∀ r, (k r).OnlyCalls P

section

variable {P : S.Call → Prop}

theorem OnlyCalls.bind {p : Prog S σ α} {f : α → Prog S σ β} (hp : p.OnlyCalls P)
    (hf : ∀ a, (f a).OnlyCalls P) : (p >>= f).OnlyCalls P := by
  induction p with
  | ret a => exact hf a
  | raise e => trivial
  | diverge => trivial
  | get k ih => exact fun m => ih m (hp m)
  | set m k ih => exact ih hp
  | call c k ih => exact ⟨hp.1, fun r => ih r (hp.2 r)⟩

theorem OnlyCalls.tryExcept {p : Prog S σ α} {h : S.Exn → Prog S σ α} (hp : p.OnlyCalls P)
    (hh : ∀ e, (h e).OnlyCalls P) : (p.tryExcept h).OnlyCalls P := by
  induction p with
  | ret a => trivial
  | raise e => exact hh e
  | diverge => trivial
  | get k ih => exact fun m => ih m (hp m)
  | set m k ih => exact ih hp
  | call c k ih => exact ⟨hp.1, fun r => ih r (hp.2 r)⟩

theorem OnlyCalls.tryFinally {p : Prog S σ α} {fin : Prog S σ Unit} (hp : p.OnlyCalls P)
    (hfin : fin.OnlyCalls P) : (p.tryFinally fin).OnlyCalls P := by
  induction p with
  | ret a => exact OnlyCalls.bind hfin fun _ => trivial
  | raise e => exact OnlyCalls.bind hfin fun _ => trivial
  | diverge => trivial
  | get k ih => exact fun m => ih m (hp m)
  | set m k ih => exact ih hp
  | call c k ih => exact ⟨hp.1, fun r => ih r (hp.2 r)⟩

theorem OnlyCalls.mono {P' : S.Call → Prop} {p : Prog S σ α} (hp : p.OnlyCalls P)
    (h : ∀ c, P c → P' c) : p.OnlyCalls P' := by
  induction p with
  | ret a => trivial
  | raise e => trivial
  | diverge => trivial
  | get k ih => exact fun m => ih m (hp m)
  | set m k ih => exact ih hp
  | call c k ih => exact ⟨h c hp.1, fun r => ih r (hp.2 r)⟩

theorem OnlyCalls.ofReply (r : Except S.Exn α) : (ofReply r : Prog S σ α).OnlyCalls P := by
  cases r <;> trivial

theorem OnlyCalls.perform {c : S.Call} (hc : P c) :
    (perform c : Prog S σ (S.Answer c)).OnlyCalls P :=
  ⟨hc, fun r => OnlyCalls.ofReply r⟩

theorem OnlyCalls.memory : (memory : Prog S σ σ).OnlyCalls P := fun _ => trivial

theorem OnlyCalls.modify (f : σ → σ) : (modify f : Prog S σ Unit).OnlyCalls P := fun _ => trivial

theorem OnlyCalls.ensures {p : Prog S σ α} (hp : p.OnlyCalls P) (m : σ) :
    p.Ensures m fun tr _ _ => ∀ ev ∈ tr, P ev.1 := by
  induction p generalizing m with
  | ret a => simp
  | raise e => simp
  | diverge => simp
  | get k ih => simpa using ih m (hp m) m
  | set m₁ k ih => simpa using ih hp m₁
  | call c k ih =>
    rw [ensures_call]
    intro r
    refine (ih r (hp.2 r) m).mono fun tr o m' h ev hev => ?_
    rcases List.mem_cons.mp hev with rfl | hev
    · exact hp.1
    · exact h ev hev

end

/-- However the program ends, its memory is related by `R` to the first one. -/
def Keeps (R : σ → σ → Prop) (p : Prog S σ α) : Prop :=
  ∀ m, p.Ensures m fun _ _ m' => R m m'

section

variable {R : σ → σ → Prop}

theorem Keeps.ret (hrefl : ∀ m, R m m) (a : α) : (Prog.ret a : Prog S σ α).Keeps R :=
  fun m => (ensures_ret a m _).mpr (hrefl m)

theorem Keeps.raise (hrefl : ∀ m, R m m) (e : S.Exn) : (Prog.raise e : Prog S σ α).Keeps R :=
  fun m => (ensures_raise e m _).mpr (hrefl m)

theorem Keeps.perform (hrefl : ∀ m, R m m) (c : S.Call) :
    (perform c : Prog S σ (S.Answer c)).Keeps R :=
  fun m => (ensures_perform c m _).mpr ⟨fun _ => hrefl m, fun _ => hrefl m⟩

theorem Keeps.memory (hrefl : ∀ m, R m m) : (memory : Prog S σ σ).Keeps R :=
  fun m => (ensures_memory m _).mpr (hrefl m)

theorem Keeps.bind (htrans : ∀ m₁ m₂ m₃, R m₁ m₂ → R m₂ m₃ → R m₁ m₃) {p : Prog S σ α}
    {f : α → Prog S σ β} (hp : p.Keeps R) (hf : ∀ a, (f a).Keeps R) : (p >>= f).Keeps R := by
  intro m
  refine (hp m).bind (fun _ a m' h => ?_) (fun _ _ _ h => h)
  exact (hf a m').mono fun _ _ m'' h' => htrans m m' m'' h h'

theorem Keeps.tryExcept (htrans : ∀ m₁ m₂ m₃, R m₁ m₂ → R m₂ m₃ → R m₁ m₃) {p : Prog S σ α}
    {h : S.Exn → Prog S σ α} (hp : p.Keeps R) (hh : ∀ e, (h e).Keeps R) :
    (p.tryExcept h).Keeps R := by
  intro m
  refine (hp m).tryExcept (fun _ _ _ h => h) fun _ e m' h => ?_
  exact (hh e m').mono fun _ _ m'' h' => htrans m m' m'' h h'

end

/-- Run the program against a world that answers from the history it has seen. -/
def exec (world : List (Event S) → (c : S.Call) → Reply S c) :
    Prog S σ α → List (Event S) → σ → Option (List (Event S) × Outcome S α × σ)
  | .ret a, _, m => some ([], .ret a, m)
  | .raise e, _, m => some ([], .raise e, m)
  | .diverge, _, _ => none
  | .get k, past, m => (k m).exec world past m
  | .set m₁ k, past, _ => k.exec world past m₁
  | .call c k, past, m =>
    ((k (world past c)).exec world (past ++ [⟨c, world past c⟩]) m).map fun out =>
      (⟨c, world past c⟩ :: out.1, out.2)

theorem run_exec (world : List (Event S) → (c : S.Call) → Reply S c) (p : Prog S σ α)
    (past tr : List (Event S)) (m m' : σ) (o : Outcome S α)
    (h : p.exec world past m = some (tr, o, m')) : p.Run m tr o m' := by
  induction p generalizing past tr m with
  | ret a => simp_all [exec, Run]
  | raise e => simp_all [exec, Run]
  | diverge => simp [exec] at h
  | get k ih => exact ih _ _ _ _ h
  | set m₁ k ih => exact ih _ _ _ h
  | call c k ih =>
    simp only [exec, Option.map_eq_some_iff] at h
    obtain ⟨⟨tr', o', m''⟩, hk, heq⟩ := h
    cases heq
    exact ⟨world past c, tr', rfl, ih _ _ _ _ hk⟩

end Prog

/-- Every call of the trace happens at a moment allowed by `P`, which sees the
calls answered before it. -/
def Guarded (P : List (Event S) → Event S → Prop) (tr : List (Event S)) : Prop :=
  ∀ pre ev post, tr = pre ++ ev :: post → P pre ev

variable {P : List (Event S) → Event S → Prop}

@[simp] theorem guarded_nil : Guarded P [] := by
  intro pre ev post h
  simp at h

@[simp] theorem guarded_cons (ev : Event S) (tr : List (Event S)) :
    Guarded P (ev :: tr) ↔ P [] ev ∧ Guarded (fun pre e => P (ev :: pre) e) tr := by
  constructor
  · intro h
    exact ⟨h [] ev tr rfl, fun pre e post htr => h (ev :: pre) e post (by simp [htr])⟩
  · rintro ⟨hev, htr⟩ pre e post heq
    cases pre with
    | nil =>
      obtain ⟨rfl, -⟩ := List.cons.inj heq
      exact hev
    | cons e' pre =>
      obtain ⟨rfl, ht⟩ := List.cons.inj heq
      exact htr pre e post ht

theorem guarded_append (tr tr' : List (Event S)) :
    Guarded P (tr ++ tr') ↔ Guarded P tr ∧ Guarded (fun pre e => P (tr ++ pre) e) tr' := by
  induction tr generalizing P with
  | nil => simp
  | cons ev tr ih => simp [ih, and_assoc]

theorem Guarded.mono {Q : List (Event S) → Event S → Prop} {tr : List (Event S)} (h : Guarded P tr)
    (hPQ : ∀ pre ev, P pre ev → Q pre ev) : Guarded Q tr :=
  fun pre ev post heq => hPQ pre ev (h pre ev post heq)

theorem Guarded.and {Q : List (Event S) → Event S → Prop} {tr : List (Event S)} (hP : Guarded P tr)
    (hQ : Guarded Q tr) : Guarded (fun pre ev => P pre ev ∧ Q pre ev) tr :=
  fun pre ev post heq => ⟨hP pre ev post heq, hQ pre ev post heq⟩

/-- What all calls have in common, the calls before a given one have in common. -/
theorem guarded_of_forall_mem {R : Event S → Prop} {tr : List (Event S)} (h : ∀ ev ∈ tr, R ev) :
    Guarded (fun pre _ => ∀ ev ∈ pre, R ev) tr := by
  rintro pre ev post rfl e he
  exact h e (List.mem_append_left _ he)

theorem Guarded.of_forall {tr : List (Event S)} (h : ∀ ev ∈ tr, ∀ pre, P pre ev) :
    Guarded P tr := by
  rintro pre ev post rfl
  exact h ev (by simp) pre

end PamMvp.InteractionPrograms
