import PamMvp.EndingPrograms

/-!
# Pools of single transactions

Parties share a store in which one transaction at a time may be open. A program that makes
one transaction looks at the store only inside of it: before it opens the transaction, and
after it ended it, the answers do not depend on what is committed. Then every interleaving
is explained by complete runs of the programs, one after the other, in the order of their
commits.
-/
namespace PamMvp.TransactionPools
open InteractionPrograms SharedPrograms EndingPrograms

variable {S : Signature} {W D τ α : Type}

section Sessions

/-- What one party sees: the committed state, and the transaction that it has open. -/
structure Session (D : Type) where
  committed : D
  transaction : Option D

/-- The committed state, and the open transaction with its party. -/
structure Store (W D : Type) where
  committed : D
  writer : Option (W × D)

namespace Store

def Holds (s : Store W D) (w : W) (v : D) : Prop := s.writer = some (w, v)

def Outside (s : Store W D) (w : W) : Prop := ∀ v, ¬ s.Holds w v

/-- No other party has a transaction. -/
def Free (s : Store W D) (w : W) : Prop := ∀ w' ≠ w, s.Outside w'

theorem holds_or_outside (s : Store W D) (w : W) : (∃ v, s.Holds w v) ∨ s.Outside w := by
  by_cases h : ∃ v, s.Holds w v
  · exact .inl h
  · exact .inr fun v hv => h ⟨v, hv⟩

/-- The store after a call of the only party with a transaction. -/
def enter (w : W) (x : Session D) : Store W D :=
  ⟨x.committed, x.transaction.map fun v => (w, v)⟩

theorem outside_enter {w w' : W} (h : w' ≠ w) (x : Session D) : (Store.enter w x).Outside w' := by
  intro v hv
  obtain ⟨v', -, hsame⟩ := Option.map_eq_some_iff.mp hv
  exact h (congrArg Prod.fst hsame).symm

variable [DecidableEq W]

def session (s : Store W D) (w : W) : Session D :=
  ⟨s.committed, s.writer.bind fun x => if x.1 = w then some x.2 else none⟩

theorem Holds.session {s : Store W D} {w : W} {v : D} (h : s.Holds w v) :
    s.session w = ⟨s.committed, some v⟩ := by
  have hwriter : s.writer = some (w, v) := h
  simp [Store.session, hwriter]

theorem Outside.session {s : Store W D} {w : W} (h : s.Outside w) :
    s.session w = ⟨s.committed, none⟩ := by
  unfold Store.session
  cases hwriter : s.writer with
  | none => rfl
  | some x =>
    have hother : x.1 ≠ w := by
      rintro rfl
      exact h x.2 hwriter
    simp [hother]

theorem outside_of_session {s : Store W D} {w : W} (h : (s.session w).transaction = none) :
    s.Outside w := by
  intro v hv
  rw [hv.session] at h
  cases h

theorem session_enter (w : W) (x : Session D) : (Store.enter w x).session w = x := by
  obtain ⟨d, transaction⟩ := x
  cases transaction <;> simp [enter, Store.session]

/-- The transaction of a party that crashes is lost. -/
def crash (w : W) (s : Store W D) : Store W D :=
  if (s.session w).transaction.isSome then ⟨s.committed, none⟩ else s

theorem crash_holds {s : Store W D} {w : W} {v : D} (h : s.Holds w v) :
    s.crash w = ⟨s.committed, none⟩ := by
  simp [crash, h.session]

theorem crash_outside {s : Store W D} {w : W} (h : s.Outside w) : s.crash w = s := by
  simp [crash, h.session]

end Store

variable [DecidableEq W]

/-- A call that changes the session of the party needs the store for itself. -/
inductive Shares (serve : Server S (Session D)) (w : W) (s : Store W D) (c : S.Call)
    (r : Reply S c) : Store W D → Prop where
  | alone {x : Session D} (hfree : s.Free w) (h : serve (s.session w) c r x) :
    Shares serve w s c r (.enter w x)
  | beside (h : serve (s.session w) c r (s.session w)) : Shares serve w s c r s

theorem Shares.served {serve : Server S (Session D)} {w : W} {s s' : Store W D} {c : S.Call}
    {r : Reply S c} (h : Shares serve w s c r s') :
    serve (s.session w) c r (s'.session w) ∧
      ∀ w' ≠ w, (∀ v, s.Holds w' v → s' = s) ∧ (s.Outside w' → s'.Outside w') := by
  cases h with
  | alone hfree h =>
    rw [Store.session_enter]
    exact ⟨h, fun w' hw' => ⟨fun v hv => absurd hv (hfree w' hw' v),
      fun _ => Store.outside_enter hw' _⟩⟩
  | beside h => exact ⟨h, fun w' _ => ⟨fun _ _ => rfl, id⟩⟩

end Sessions

section Transactions

/-- What a call does to a transaction. -/
inductive Kind where
  | idle
  | opening
  | inner
  | commit
  | rollback
  | close
  deriving DecidableEq

/-- What is asked of the server of one session. -/
structure Transactional (serve : Server S (Session D)) (kind : S.Call → Kind) : Prop where
  steady : ∀ c d r x, kind c = .idle ∨ kind c = .rollback ∨ kind c = .close →
    serve ⟨d, none⟩ c r x → x = ⟨d, none⟩ ∧ ∀ d', serve ⟨d', none⟩ c r ⟨d', none⟩
  opens : ∀ c d r x, kind c = .opening → serve ⟨d, none⟩ c r x →
    x.committed = d ∧ (r.isOk = true → x.transaction ≠ none)
  keeps : ∀ c d v r x, kind c ≠ .commit → serve ⟨d, some v⟩ c r x → x.committed = d
  stays : ∀ c d v r x, kind c = .opening ∨ kind c = .inner → serve ⟨d, some v⟩ c r x →
    r.isOk = true → x.transaction ≠ none
  commits : ∀ c d v r x, kind c = .commit → serve ⟨d, some v⟩ c r x →
    if r.isOk then x.transaction = none else x.committed = d
  closes : ∀ c x r y, kind c = .close → serve x c r y → r.isOk = true ∧ y.transaction = none
  answered : ∀ x c, ∃ r y, serve x c r y

/-- The phases of a program. While it is `ending`, its transaction may be open or not; the
flag says whether it has committed. No call to close fails. -/
inductive Phase where
  | outside
  | inside
  | ending (committed : Bool)
  | closed (committed : Bool)
  | unreachable

/-- A program opens one transaction and then ends it. -/
def discipline (kind : S.Call → Kind) : Discipline S Phase where
  allowed
    | .outside, c => kind c = .idle ∨ kind c = .opening
    | .inside, c => kind c ≠ .idle
    | .ending _, c => kind c = .rollback ∨ kind c = .close
    | .closed _, _ => False
    | .unreachable, _ => False
  next φ c r :=
    match φ, kind c with
    | .outside, .idle => .outside
    | .ending b, .close => if r.isOk then .closed b else .unreachable
    | .ending b, _ => .ending b
    | .closed b, _ => .closed b
    | _, .close => if r.isOk then .closed false else .unreachable
    | _, .commit => .ending r.isOk
    | _, .rollback => .ending false
    | _, _ => if r.isOk then .inside else .ending false

/-- A program does not end while its transaction may be open, and it returns if and only if
it committed. -/
def Finished : Phase → Outcome S α → Prop
  | .outside, o => ∃ e, o = .raise e
  | .closed false, o => ∃ e, o = .raise e
  | .closed true, o => ∃ a, o = .ret a
  | .inside, _ => False
  | .ending _, _ => False
  | .unreachable, _ => True

/-- A program that makes one transaction. -/
structure SingleTransaction (kind : S.Call → Kind) (p : Prog S Unit α) : Prop where
  follows : Follows (discipline kind) Finished p .outside
  ends : Ending p

/-- The task of which a step is the commit. -/
def commitOf (kind : S.Call → Kind) : Label S W τ α → Option τ
  | .called _ t ⟨c, r⟩ => if kind c = .commit ∧ r.isOk = true then some t else none
  | _ => none

/-- The committed tasks, in the order of their commits. -/
def commitLog (kind : S.Call → Kind) (trace : List (Label S W τ α)) : List τ :=
  trace.filterMap (commitOf kind)

end Transactions

section Histories

variable (serve : Server S (Session D)) (body : τ → Prog S Unit α)

/-- Runs of tasks that return, one after the other. -/
inductive Executes : D → List τ → D → Prop where
  | nil (d : D) : Executes d [] d
  | cons {d d' d'' : D} {t : τ} {a : α} {ts : List τ}
    (h : RunsOn serve (body t) ⟨d, none⟩ (.ret a) ⟨d', none⟩) (hrest : Executes d' ts d'') :
    Executes d (t :: ts) d''

/-- Where a run of a task stands between the committed ones: it is one of them, or it has
changed nothing. -/
inductive Placed (start now : D) (log : List τ) (t : τ) : Bool → D → D → Prop where
  | quiet {d : D} {earlier later : List τ} (hlog : log = earlier ++ later)
    (hearlier : Executes serve body start earlier d) (hlater : Executes serve body d later now) :
    Placed start now log t false d d
  | committed {d d' : D} {earlier later : List τ} (hlog : log = earlier ++ t :: later)
    (hearlier : Executes serve body start earlier d) (hlater : Executes serve body d' later now) :
    Placed start now log t true d d'

/-- The outcome is that of a run of the task in its place: it has returned as one of the
committed ones, or raised between them and changed nothing. -/
inductive Explained (start now : D) (log : List τ) (t : τ) : Outcome S α → Prop where
  | returned {d d' : D} {earlier later : List τ} {a : α} (hlog : log = earlier ++ t :: later)
    (hearlier : Executes serve body start earlier d)
    (hrun : RunsOn serve (body t) ⟨d, none⟩ (.ret a) ⟨d', none⟩)
    (hlater : Executes serve body d' later now) : Explained start now log t (.ret a)
  | raised {d : D} {earlier later : List τ} {e : S.Exn} (hlog : log = earlier ++ later)
    (hearlier : Executes serve body start earlier d)
    (hrun : RunsOn serve (body t) ⟨d, none⟩ (.raise e) ⟨d, none⟩)
    (hlater : Executes serve body d later now) : Explained start now log t (.raise e)

/-- Whatever the rest of the program does from here, the whole program does from there. -/
def Continues (p : Prog S Unit α) (x : Session D) (q : Prog S Unit α) (y : Session D) : Prop :=
  ∀ o z, RunsOn serve q y o z → RunsOn serve p x o z

variable {serve body} {kind : S.Call → Kind} {d d' d'' : D} {ts ts' : List τ}

theorem Executes.append (h : Executes serve body d ts d') (h' : Executes serve body d' ts' d'') :
    Executes serve body d (ts ++ ts') d'' := by
  induction h with
  | nil d => exact h'
  | cons hrun _ ih => exact .cons hrun (ih h')

theorem Placed.append {start now now' : D} {log : List τ} {t : τ} {b : Bool}
    (h : Placed serve body start now log t b d d') (hmore : Executes serve body now ts now') :
    Placed serve body start now' (log ++ ts) t b d d' := by
  cases h with
  | quiet hlog hearlier hlater =>
    exact .quiet (by rw [hlog, List.append_assoc]) hearlier (hlater.append hmore)
  | committed hlog hearlier hlater =>
    exact .committed (by rw [hlog, List.append_assoc, List.cons_append]) hearlier
      (hlater.append hmore)

theorem Explained.append {start now now' : D} {log : List τ} {t : τ} {o : Outcome S α}
    (h : Explained serve body start now log t o) (hmore : Executes serve body now ts now') :
    Explained serve body start now' (log ++ ts) t o := by
  cases h with
  | returned hlog hearlier hrun hlater =>
    exact .returned (by rw [hlog, List.append_assoc, List.cons_append]) hearlier hrun
      (hlater.append hmore)
  | raised hlog hearlier hrun hlater =>
    exact .raised (by rw [hlog, List.append_assoc]) hearlier hrun (hlater.append hmore)

theorem Continues.call {p : Prog S Unit α} {c : S.Call} {k : Reply S c → Prog S Unit α}
    {r : Reply S c} {x y z : Session D} (h : Continues serve p x (.call c k) y)
    (hserve : serve y c r z) : Continues serve p x (k r) z :=
  fun o z' hrun => h o z' ⟨r, z, hserve, hrun⟩

/-- An ending program has a run on a server that always answers. -/
theorem runsOn_of_ending (hserve : Transactional serve kind) {p : Prog S Unit α} (hp : Ending p)
    (x : Session D) : ∃ o y, RunsOn serve p x o y := by
  induction hp generalizing x with
  | ret a => exact ⟨.ret a, x, rfl, rfl⟩
  | raise e => exact ⟨.raise e, x, rfl, rfl⟩
  | get _ ih => exact ih () x
  | set _ ih => exact ih x
  | @call c k _ ih =>
    obtain ⟨r, y, hanswer⟩ := hserve.answered x c
    obtain ⟨o, z, hrun⟩ := ih r y
    exact ⟨o, z, r, y, hanswer, hrun⟩

theorem next_ending {b : Bool} {c : S.Call} {r : Reply S c}
    (hallowed : (discipline kind).allowed (.ending b) c)
    (hclose : kind c = .close → r.isOk = true) :
    (discipline kind).next (.ending b) c r = .ending b ∨
      (discipline kind).next (.ending b) c r = .closed b := by
  rcases hallowed with hkind | hkind
  · simp [discipline, hkind]
  · simp [discipline, hkind, hclose hkind]

/-- After its transaction a program changes nothing, and if it has committed, it returns. -/
theorem runsOn_ended (hserve : Transactional serve kind) {q : Prog S Unit α} {b : Bool}
    (hq : Follows (discipline kind) Finished q (.ending b)) {o : Outcome S α} {y : Session D}
    (hrun : RunsOn serve q ⟨d, none⟩ o y) : y = ⟨d, none⟩ ∧ (b = true → ∃ a, o = .ret a) := by
  have hstep : ∀ φ x c r y, ((φ = Phase.ending b ∨ φ = .closed b) ∧ x = (⟨d, none⟩ : Session D)) →
      (discipline kind).allowed φ c → serve x c r y →
        ((discipline kind).next φ c r = .ending b ∨ (discipline kind).next φ c r = .closed b) ∧
          y = ⟨d, none⟩ := by
    intro φ x c r y h hallowed hanswer
    obtain ⟨rfl | rfl, rfl⟩ := h
    · refine ⟨next_ending hallowed fun hkind => ?_, ?_⟩
      · exact (hserve.closes c _ r y hkind hanswer).1
      · exact (hserve.steady c d r y (.inr hallowed) hanswer).1
    · exact hallowed.elim
  obtain ⟨φ', ⟨hφ, hsame⟩, hfinished⟩ := hq.runsOn hstep ⟨.inl rfl, rfl⟩ hrun
  refine ⟨hsame, ?_⟩
  rintro rfl
  rcases hφ with rfl | rfl
  · exact hfinished.elim
  · exact hfinished

/-- A program that has committed can be completed. -/
theorem executes_of_ended (hserve : Transactional serve kind) {t : τ} {q : Prog S Unit α}
    (hq : Follows (discipline kind) Finished q (.ending true)) (hends : Ending q)
    (h : Continues serve (body t) ⟨d, none⟩ q ⟨d', none⟩) : Executes serve body d [t] d' := by
  obtain ⟨o, y, hrun⟩ := runsOn_of_ending hserve hends ⟨d', none⟩
  obtain ⟨rfl, hreturns⟩ := runsOn_ended hserve hq hrun
  obtain ⟨a, rfl⟩ := hreturns rfl
  exact .cons (h _ _ hrun) (.nil d')

end Histories

section Stages

variable (serve : Server S (Session D)) (body : τ → Prog S Unit α) (start : D) (log : List τ)

/-- How the rest of a program stands to the store. -/
inductive Stage (w : W) (t : τ) (q : Prog S Unit α) (s : Store W D) : Phase → Prop where
  | before (houtside : s.Outside w) (h : ∀ d, Continues serve (body t) ⟨d, none⟩ q ⟨d, none⟩) :
    Stage w t q s .outside
  | during {φ : Phase} {v : D} (hφ : φ = .inside ∨ φ = .ending false) (hholds : s.Holds w v)
    (h : Continues serve (body t) ⟨s.committed, none⟩ q ⟨s.committed, some v⟩) : Stage w t q s φ
  | after {φ : Phase} {b : Bool} {d d' : D} (hφ : φ = .ending b ∨ φ = .closed b)
    (houtside : s.Outside w) (hplaced : Placed serve body start s.committed log t b d d')
    (h : Continues serve (body t) ⟨d, none⟩ q ⟨d', none⟩) : Stage w t q s φ

/-- What a party may notice of a step of another, which may commit. -/
structure Beside (w : W) (s : Store W D) (ts : List τ) (s' : Store W D) : Prop where
  executes : Executes serve body s.committed ts s'.committed
  holds : ∀ v, s.Holds w v → s' = s
  outside : s.Outside w → s'.Outside w

variable {serve body start log} {kind : S.Call → Kind} {w : W} {t : τ} {q : Prog S Unit α}
  {s s' : Store W D} {φ : Phase}

theorem Beside.rfl : Beside serve body w s [] s := ⟨.nil _, fun _ _ => Eq.refl s, id⟩

theorem Stage.beside {ts : List τ} (h : Stage serve body start log w t q s φ)
    (hbeside : Beside serve body w s ts s') : Stage serve body start (log ++ ts) w t q s' φ := by
  cases h with
  | before houtside h => exact .before (hbeside.outside houtside) h
  | during hφ hholds h =>
    rw [hbeside.holds _ hholds]
    exact .during hφ hholds h
  | after hφ houtside hplaced h =>
    exact .after hφ (hbeside.outside houtside) (hplaced.append hbeside.executes) h

/-- A step without a call. -/
theorem Stage.silent {q' : Prog S Unit α} (h : Stage serve body start log w t q s φ)
    (hq : ∀ x o y, RunsOn serve q' x o y → RunsOn serve q x o y) :
    Stage serve body start log w t q' s φ := by
  cases h with
  | before houtside h => exact .before houtside fun d o y hrun => h d o y (hq _ o y hrun)
  | during hφ hholds h => exact .during hφ hholds fun o y hrun => h o y (hq _ o y hrun)
  | after hφ houtside hplaced h =>
    exact .after hφ houtside hplaced fun o y hrun => h o y (hq _ o y hrun)

variable [DecidableEq W]

/-- A call that commits nothing leaves its party in the transaction, or ends it. -/
theorem Stage.of_session (hhistory : Executes serve body start log s.committed)
    (hsame : (s'.session w).committed = s.committed)
    (h : Continues serve (body t) ⟨s.committed, none⟩ q (s'.session w))
    (hholds : (s'.session w).transaction ≠ none → φ = .inside ∨ φ = .ending false)
    (houtside : (s'.session w).transaction = none → φ = .ending false ∨ φ = .closed false) :
    Stage serve body start log w t q s' φ := by
  have hcommitted : s'.committed = s.committed := hsame
  rcases s'.holds_or_outside w with ⟨v, hv⟩ | hv
  · rw [hv.session] at h hholds
    refine .during (hholds (Option.some_ne_none v)) hv ?_
    rw [hcommitted] at h ⊢
    exact h
  · rw [hv.session, hcommitted] at h
    rw [hv.session] at houtside
    rw [← hcommitted] at h hhistory
    exact .after (houtside rfl) hv (.quiet (List.append_nil log).symm hhistory (.nil _)) h

/-- The first calls of a program see no more than whether its transaction is open. -/
theorem Stage.call_before (hserve : Transactional serve kind)
    (hhistory : Executes serve body start log s.committed) {c : S.Call}
    {k : Reply S c → Prog S Unit α} {r : Reply S c}
    (h : ∀ d, Continues serve (body t) ⟨d, none⟩ (.call c k) ⟨d, none⟩)
    (hallowed : (discipline kind).allowed .outside c)
    (hanswer : serve ⟨s.committed, none⟩ c r (s'.session w)) :
    Stage serve body start log w t (k r) s' ((discipline kind).next .outside c r) ∧
      s'.committed = s.committed := by
  have hcommitted : (s'.session w).committed = s'.committed := rfl
  rcases hallowed with hkind | hkind
  · obtain ⟨hsame, hsteady⟩ := hserve.steady c _ r _ (.inl hkind) hanswer
    have hnext : (discipline kind).next .outside c r = .outside := by simp [discipline, hkind]
    have houtside : s'.Outside w := Store.outside_of_session (by rw [hsame])
    rw [hnext, ← hcommitted, hsame]
    exact ⟨.before houtside fun d => (h d).call (hsteady d), rfl⟩
  · obtain ⟨hsame, hopen⟩ := hserve.opens c _ r _ hkind hanswer
    have hnext : (discipline kind).next .outside c r =
        if r.isOk then .inside else .ending false := by
      simp [discipline, hkind]
    rw [hnext, ← hcommitted]
    refine ⟨.of_session hhistory hsame ((h s.committed).call hanswer) (fun _ => ?_) ?_, hsame⟩
    · split_ifs <;> simp
    · intro hnone
      rw [if_neg fun hok => hopen hok hnone]
      exact .inl rfl

/-- A commit is the move of the whole program. -/
theorem Stage.call_commit (hserve : Transactional serve kind)
    (hhistory : Executes serve body start log s.committed) {v : D} {c : S.Call}
    {k : Reply S c → Prog S Unit α} {r : Reply S c} (hkind : kind c = .commit)
    (hok : r.isOk = true)
    (h : Continues serve (body t) ⟨s.committed, none⟩ (.call c k) ⟨s.committed, some v⟩)
    (hfollows : Follows (discipline kind) Finished (k r) (.ending true)) (hends : Ending (k r))
    (hanswer : serve ⟨s.committed, some v⟩ c r (s'.session w)) :
    Stage serve body start (log ++ [t]) w t (k r) s' (.ending true) ∧
      Executes serve body s.committed [t] s'.committed := by
  have hcontinues := h.call hanswer
  have hnone := hserve.commits c _ v r _ hkind hanswer
  rw [if_pos hok] at hnone
  have houtside := Store.outside_of_session hnone
  rw [houtside.session] at hcontinues
  refine ⟨.after (.inl rfl) houtside (.committed rfl hhistory (.nil _)) hcontinues, ?_⟩
  exact executes_of_ended hserve hfollows hends hcontinues

theorem next_inside {c : S.Call} {r : Reply S c} (hφ : φ = .inside ∨ φ = .ending false)
    (hallowed : (discipline kind).allowed φ c) (hclose : kind c ≠ .close)
    (hcommit : kind c = .commit → r.isOk = false) :
    (discipline kind).next φ c r = .inside ∨ (discipline kind).next φ c r = .ending false := by
  rcases hφ with rfl | rfl
  · cases hkind : kind c with
    | idle => exact absurd hkind hallowed
    | close => exact absurd hkind hclose
    | opening => cases hr : r.isOk <;> simp [discipline, hkind, hr]
    | inner => cases hr : r.isOk <;> simp [discipline, hkind, hr]
    | commit => simp [discipline, hkind, hcommit hkind]
    | rollback => simp [discipline, hkind]
  · rcases hallowed with hkind | hkind
    · simp [discipline, hkind]
    · exact absurd hkind hclose

theorem next_ended {c : S.Call} {r : Reply S c} (hφ : φ = .inside ∨ φ = .ending false)
    (hallowed : (discipline kind).allowed φ c)
    (hopen : kind c = .opening ∨ kind c = .inner → r.isOk ≠ true)
    (hclose : kind c = .close → r.isOk = true) (hcommit : kind c = .commit → r.isOk = false) :
    (discipline kind).next φ c r = .ending false ∨
      (discipline kind).next φ c r = .closed false := by
  rcases hφ with rfl | rfl
  · cases hkind : kind c with
    | idle => exact absurd hkind hallowed
    | opening => simp [discipline, hkind, hopen (.inl hkind)]
    | inner => simp [discipline, hkind, hopen (.inr hkind)]
    | commit => simp [discipline, hkind, hcommit hkind]
    | rollback => simp [discipline, hkind]
    | close => simp [discipline, hkind, hclose hkind]
  · exact next_ending hallowed hclose

theorem Stage.call_during (hserve : Transactional serve kind)
    (hhistory : Executes serve body start log s.committed) {v : D} {c : S.Call}
    {k : Reply S c → Prog S Unit α} {r : Reply S c} (hφ : φ = .inside ∨ φ = .ending false)
    (hcommit : kind c = .commit → r.isOk = false)
    (h : Continues serve (body t) ⟨s.committed, none⟩ (.call c k) ⟨s.committed, some v⟩)
    (hallowed : (discipline kind).allowed φ c)
    (hanswer : serve ⟨s.committed, some v⟩ c r (s'.session w)) :
    Stage serve body start log w t (k r) s' ((discipline kind).next φ c r) ∧
      s'.committed = s.committed := by
  have hsame : (s'.session w).committed = s.committed := by
    by_cases hkind : kind c = .commit
    · have hcommits := hserve.commits c _ v r _ hkind hanswer
      rwa [hcommit hkind] at hcommits
    · exact hserve.keeps c _ v r _ hkind hanswer
  refine ⟨.of_session hhistory hsame (h.call hanswer) (fun hsome => ?_) fun hnone => ?_, hsame⟩
  · refine next_inside hφ hallowed (fun hclose => ?_) hcommit
    exact hsome (hserve.closes c _ r _ hclose hanswer).2
  · refine next_ended hφ hallowed (fun hopen hok => ?_) (fun hclose => ?_) hcommit
    · exact hserve.stays c _ v r _ hopen hanswer hok hnone
    · exact (hserve.closes c _ r _ hclose hanswer).1

theorem Stage.call_after (hserve : Transactional serve kind) {b : Bool} {d d' : D} {c : S.Call}
    {k : Reply S c → Prog S Unit α} {r : Reply S c} (hφ : φ = .ending b ∨ φ = .closed b)
    (hplaced : Placed serve body start s.committed log t b d d')
    (h : Continues serve (body t) ⟨d, none⟩ (.call c k) ⟨d', none⟩)
    (hallowed : (discipline kind).allowed φ c)
    (hanswer : serve ⟨s.committed, none⟩ c r (s'.session w)) :
    Stage serve body start log w t (k r) s' ((discipline kind).next φ c r) ∧
      s'.committed = s.committed := by
  rcases hφ with rfl | rfl
  · obtain ⟨hsame, hsteady⟩ := hserve.steady c _ r _ (.inr hallowed) hanswer
    have hcommitted : s'.committed = s.committed := congrArg Session.committed hsame
    have houtside : s'.Outside w := Store.outside_of_session (by rw [hsame])
    rw [← hcommitted] at hplaced
    have hnext := next_ending hallowed fun hclose => (hserve.closes c _ r _ hclose hanswer).1
    exact ⟨.after hnext houtside hplaced (h.call (hsteady d')), hcommitted⟩
  · exact hallowed.elim

/-- What one call of a party does to the party itself. -/
theorem Stage.call (hserve : Transactional serve kind)
    (hhistory : Executes serve body start log s.committed) {c : S.Call}
    {k : Reply S c → Prog S Unit α} {r : Reply S c}
    (h : Stage serve body start log w t (.call c k) s φ)
    (hallowed : (discipline kind).allowed φ c)
    (hfollows : Follows (discipline kind) Finished (k r) ((discipline kind).next φ c r))
    (hends : Ending (k r)) (hanswer : serve (s.session w) c r (s'.session w)) :
    ∃ ts, ts = (commitOf kind (.called w t ⟨c, r⟩ : Label S W τ α)).toList ∧
      Stage serve body start (log ++ ts) w t (k r) s' ((discipline kind).next φ c r) ∧
      Executes serve body s.committed ts s'.committed := by
  have hquiet (hcommit : ¬ (kind c = .commit ∧ r.isOk = true))
      (hcall : Stage serve body start log w t (k r) s' ((discipline kind).next φ c r) ∧
        s'.committed = s.committed) :
      ∃ ts, ts = (commitOf kind (.called w t ⟨c, r⟩ : Label S W τ α)).toList ∧
        Stage serve body start (log ++ ts) w t (k r) s' ((discipline kind).next φ c r) ∧
        Executes serve body s.committed ts s'.committed := by
    refine ⟨[], by simp [commitOf, hcommit], ?_, ?_⟩
    · rw [List.append_nil]
      exact hcall.1
    · rw [hcall.2]
      exact .nil _
  cases h with
  | before houtside h =>
    rw [houtside.session] at hanswer
    refine hquiet ?_ (Stage.call_before hserve hhistory h hallowed hanswer)
    intro hcommit
    rcases hallowed with hkind | hkind <;> rw [hcommit.1] at hkind <;> cases hkind
  | @during φ v hφ hholds h =>
    rw [hholds.session] at hanswer
    by_cases hcommit : kind c = .commit ∧ r.isOk = true
    · have hinside : φ = .inside := by
        refine hφ.resolve_right ?_
        rintro rfl
        rcases hallowed with hkind | hkind <;> rw [hcommit.1] at hkind <;> cases hkind
      have hnext : (discipline kind).next φ c r = .ending true := by
        simp [discipline, hinside, hcommit.1, hcommit.2]
      rw [hnext] at hfollows ⊢
      refine ⟨[t], by simp [commitOf, hcommit], ?_⟩
      exact Stage.call_commit hserve hhistory hcommit.1 hcommit.2 h hfollows hends hanswer
    · refine hquiet hcommit (Stage.call_during hserve hhistory hφ ?_ h hallowed hanswer)
      intro hkind
      simpa using fun hok => hcommit ⟨hkind, hok⟩
  | @after φ b d d' hφ houtside hplaced h =>
    rw [houtside.session] at hanswer
    refine hquiet ?_ (Stage.call_after hserve hφ hplaced h hallowed hanswer)
    intro hcommit
    rcases hφ with rfl | rfl
    · rcases hallowed with hkind | hkind <;> rw [hcommit.1] at hkind <;> cases hkind
    · exact hallowed

end Stages

section Pools

/-- What a step shows of a finished task. -/
inductive Finishes : Label S W τ α → τ → Outcome S α → Prop where
  | returned (w : W) (t : τ) (past : List (Event S)) (a : α) :
    Finishes (.returned w t past a) t (.ret a)
  | raised (w : W) (t : τ) (past : List (Event S)) (e : S.Exn) :
    Finishes (.raised w t past e) t (.raise e)

variable (serve : Server S (Session D)) (body : τ → Prog S Unit α) (kind : S.Call → Kind)
  (start : D) (log : List τ)

def Standing (w : W) (s : Store W D) : Option (Running S τ α) → Prop
  | none => s.Outside w
  | some r => ∃ φ, Follows (discipline kind) Finished r.rest φ ∧ Ending r.rest ∧
      Stage serve body start log w r.task r.rest s φ

/-- The invariant of a pool in which the tasks of the log have committed. -/
structure Serial (pool : Pool S W (Store W D) τ α) : Prop where
  history : Executes serve body start log pool.shared.committed
  standing : ∀ w, Standing serve body kind start log w pool.shared (pool.running w)

variable {serve body kind start log} {w : W} {t : τ} {s s' : Store W D} {ts : List τ}

theorem Standing.beside {r : Option (Running S τ α)}
    (h : Standing serve body kind start log w s r) (hbeside : Beside serve body w s ts s') :
    Standing serve body kind start (log ++ ts) w s' r := by
  cases r with
  | none => exact hbeside.outside h
  | some r =>
    obtain ⟨φ, hfollows, hends, hstage⟩ := h
    exact ⟨φ, hfollows, hends, hstage.beside hbeside⟩

/-- A party ends outside of a transaction, and its outcome is explained. -/
theorem Stage.finished {q : Prog S Unit α} {φ : Phase} {o : Outcome S α}
    (h : Stage serve body start log w t q s φ) (hφ : Finished φ o)
    (hhistory : Executes serve body start log s.committed) (hq : ∀ x, RunsOn serve q x o x) :
    s.Outside w ∧ Explained serve body start s.committed log t o := by
  cases h with
  | before houtside h =>
    obtain ⟨e, rfl⟩ := hφ
    exact ⟨houtside, .raised (List.append_nil log).symm hhistory (h _ _ _ (hq _)) (.nil _)⟩
  | during hφ' => rcases hφ' with rfl | rfl <;> exact hφ.elim
  | after hφ' houtside hplaced h =>
    have hrun := h _ _ (hq _)
    cases hplaced with
    | quiet hlog hearlier hlater =>
      rcases hφ' with rfl | rfl
      · exact hφ.elim
      · obtain ⟨e, rfl⟩ := hφ
        exact ⟨houtside, .raised hlog hearlier hrun hlater⟩
    | committed hlog hearlier hlater =>
      rcases hφ' with rfl | rfl
      · exact hφ.elim
      · obtain ⟨a, rfl⟩ := hφ
        exact ⟨houtside, .returned hlog hearlier hrun hlater⟩

variable [DecidableEq W] {pool pool' : Pool S W (Store W D) τ α}

theorem Serial.become {r : Option (Running S τ α)} (h : Serial serve body kind start log pool)
    (hexecutes : Executes serve body pool.shared.committed ts s'.committed)
    (hw : Standing serve body kind start (log ++ ts) w s' r)
    (hbeside : ∀ w' ≠ w, Beside serve body w' pool.shared ts s') :
    Serial serve body kind start (log ++ ts) (pool.become w r s') := by
  refine ⟨h.history.append hexecutes, fun w' => ?_⟩
  by_cases hww : w' = w
  · subst hww
    simpa [Pool.become] using hw
  · have hother : (pool.become w r s').running w' = pool.running w' := by
      simp [Pool.become, hww]
    rw [hother]
    exact (h.standing w').beside (hbeside w' hww)

/-- A step that leaves the committed state alone. -/
theorem Serial.unchanged {r : Option (Running S τ α)} (h : Serial serve body kind start log pool)
    (hw : Standing serve body kind start log w pool.shared r) :
    Serial serve body kind start log (pool.become w r pool.shared) := by
  have hbecome := h.become (.nil _) (by rwa [List.append_nil]) fun w' _ => .rfl
  rwa [List.append_nil] at hbecome

theorem Serial.called (hserve : Transactional serve kind)
    (h : Serial serve body kind start log pool) {past : List (Event S)} {c : S.Call}
    {k : Reply S c → Prog S Unit α} {r : Reply S c}
    (hw : pool.running w = some ⟨t, past, .call c k⟩)
    (hshares : Shares serve w pool.shared c r s') :
    ∃ ts, ts = (commitOf kind (.called w t ⟨c, r⟩ : Label S W τ α)).toList ∧
      Serial serve body kind start (log ++ ts)
        (pool.become w (some ⟨t, past ++ [⟨c, r⟩], k r⟩) s') ∧
      Executes serve body pool.shared.committed ts s'.committed := by
  have hrunning := h.standing w
  rw [hw] at hrunning
  obtain ⟨φ, ⟨hallowed, hfollows⟩, hends, hstage⟩ := hrunning
  have hends' : Ending (k r) := by
    cases hends with
    | call hends => exact hends r
  obtain ⟨hanswer, hothers⟩ := hshares.served
  obtain ⟨ts, hts, hnext, hexecutes⟩ :=
    hstage.call hserve h.history hallowed (hfollows r) hends' hanswer
  refine ⟨ts, hts, h.become hexecutes ⟨_, hfollows r, hends', hnext⟩ fun w' hw' => ?_, hexecutes⟩
  exact ⟨hexecutes, (hothers w' hw').1, (hothers w' hw').2⟩

theorem Serial.crashed (h : Serial serve body kind start log pool) :
    Serial serve body kind start log (pool.become w none (pool.shared.crash w)) ∧
      (pool.shared.crash w).committed = pool.shared.committed := by
  rcases pool.shared.holds_or_outside w with ⟨v, hv⟩ | hv
  · rw [Store.crash_holds hv]
    have houtside : ∀ w', (⟨pool.shared.committed, none⟩ : Store W D).Outside w' :=
      fun w' v' hv' => by cases hv'
    have hbecome : Serial serve body kind start (log ++ [])
        (pool.become w none ⟨pool.shared.committed, none⟩) := by
      refine h.become (.nil _) (houtside w) fun w' hw' => ⟨.nil _, fun v' hv' => ?_, ?_⟩
      · have hsame := hv.symm.trans hv'
        cases hsame
        exact absurd rfl hw'
      · exact fun _ => houtside w'
    rw [List.append_nil] at hbecome
    exact ⟨hbecome, rfl⟩
  · rw [Store.crash_outside hv]
    exact ⟨h.unchanged hv, rfl⟩

/-- A task is finished outside of every transaction. -/
theorem Serial.finished (h : Serial serve body kind start log pool) {past : List (Event S)}
    {q : Prog S Unit α} {o : Outcome S α} (hw : pool.running w = some ⟨t, past, q⟩)
    (hq : ∀ x, RunsOn serve q x o x)
    (hdone : ∀ φ, Follows (discipline kind) Finished q φ → Finished φ o) :
    Serial serve body kind start log (pool.become w none pool.shared) ∧
      Explained serve body start pool.shared.committed log t o := by
  have hrunning := h.standing w
  rw [hw] at hrunning
  obtain ⟨φ, hfollows, -, hstage⟩ := hrunning
  have hfinished := hstage.finished (hdone φ hfollows) h.history hq
  exact ⟨h.unchanged hfinished.1, hfinished.2⟩

/-- A step without a call, in which the rest of the program does what it did before. -/
theorem Serial.silent (h : Serial serve body kind start log pool) {past : List (Event S)}
    {q q' : Prog S Unit α} (hw : pool.running w = some ⟨t, past, q⟩)
    (hfollows : ∀ φ, Follows (discipline kind) Finished q φ →
      Follows (discipline kind) Finished q' φ) (hends : Ending q → Ending q')
    (hq : ∀ x o y, RunsOn serve q' x o y → RunsOn serve q x o y) :
    Serial serve body kind start log (pool.become w (some ⟨t, past, q'⟩) pool.shared) := by
  have hrunning := h.standing w
  rw [hw] at hrunning
  obtain ⟨φ, hφ, hending, hstage⟩ := hrunning
  exact h.unchanged ⟨φ, hfollows φ hφ, hends hending, hstage.silent hq⟩

theorem Serial.step (hserve : Transactional serve kind)
    (hbody : ∀ t, SingleTransaction kind (body t)) (h : Serial serve body kind start log pool)
    {label : Label S W τ α}
    (hstep : PoolStep body (Shares serve) Store.crash pool label pool') :
    ∃ ts, ts = (commitOf kind label).toList ∧ Serial serve body kind start (log ++ ts) pool' ∧
      Executes serve body pool.shared.committed ts pool'.shared.committed ∧
      ∀ t o, Finishes label t o →
        Explained serve body start pool'.shared.committed (log ++ ts) t o := by
  cases hstep with
  | @start w t hw =>
    refine ⟨[], rfl, ?_, .nil _, nofun⟩
    have houtside := h.standing w
    rw [hw] at houtside
    rw [List.append_nil]
    exact h.unchanged ⟨.outside, (hbody t).follows, (hbody t).ends,
      .before houtside fun d o z hrun => hrun⟩
  | call hw hshares =>
    obtain ⟨ts, hts, hserial, hexecutes⟩ := h.called hserve hw hshares
    exact ⟨ts, hts, hserial, hexecutes, nofun⟩
  | @get w t past k hw =>
    refine ⟨[], rfl, ?_, .nil _, nofun⟩
    rw [List.append_nil]
    refine h.silent hw (fun φ hφ => hφ) (fun hends => ?_) fun x o y hrun => hrun
    cases hends with
    | get hends => exact hends ()
  | @set w t past m k hw =>
    refine ⟨[], rfl, ?_, .nil _, nofun⟩
    rw [List.append_nil]
    refine h.silent hw (fun φ hφ => hφ) (fun hends => ?_) fun x o y hrun => hrun
    cases hends with
    | set hends => exact hends
  | @ret w t past a hw =>
    have hfinished := h.finished (o := .ret a) hw (fun _ => ⟨rfl, rfl⟩) fun _ hφ => hφ
    refine ⟨[], rfl, ?_, .nil _, fun t' o hlabel => ?_⟩
    · rw [List.append_nil]
      exact hfinished.1
    · cases hlabel
      rw [List.append_nil]
      exact hfinished.2
  | @raise w t past e hw =>
    have hfinished := h.finished (o := .raise e) hw (fun _ => ⟨rfl, rfl⟩) fun _ hφ => hφ
    refine ⟨[], rfl, ?_, .nil _, fun t' o hlabel => ?_⟩
    · rw [List.append_nil]
      exact hfinished.1
    · cases hlabel
      rw [List.append_nil]
      exact hfinished.2
  | @crash w r hw =>
    obtain ⟨hserial, hsame⟩ := h.crashed (w := w)
    refine ⟨[], rfl, ?_, ?_, nofun⟩
    · rw [List.append_nil]
      exact hserial
    · change Executes serve body _ [] (pool.shared.crash w).committed
      rw [hsame]
      exact .nil _

/-- Every interleaving is explained by complete runs, one after the other, in the order of
the commits. -/
theorem serializable (hserve : Transactional serve kind)
    (hbody : ∀ t, SingleTransaction kind (body t)) {trace : List (Label S W τ α)}
    (h : PoolRuns body (Shares serve) Store.crash ⟨start, none⟩ trace pool) :
    Serial serve body kind start (commitLog kind trace) pool ∧
      ∀ label ∈ trace, ∀ t o, Finishes label t o →
        Explained serve body start pool.shared.committed (commitLog kind trace) t o := by
  induction h with
  | nil =>
    refine ⟨⟨.nil _, fun w v hv => ?_⟩, fun _ hlabel => ?_⟩
    · cases hv
    · cases hlabel
  | @step trace pool pool' label _ hstep ih =>
    obtain ⟨ts, hts, hserial, hexecutes, hfinishes⟩ := ih.1.step hserve hbody hstep
    have hlog : commitLog kind (trace ++ [label]) = commitLog kind trace ++ ts := by
      rw [hts, commitLog, commitLog, List.filterMap_append]
      cases hlabel : commitOf kind label <;> simp [hlabel]
    rw [hlog]
    refine ⟨hserial, fun label' hmem t o hfinish => ?_⟩
    rcases List.mem_append.mp hmem with hmem | hmem
    · exact (ih.2 label' hmem t o hfinish).append hexecutes
    · rw [List.mem_singleton] at hmem
      subst hmem
      exact hfinishes t o hfinish

end Pools

end PamMvp.TransactionPools
