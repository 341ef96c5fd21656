import PamMvp.AccessCommand
import PamMvp.PreservingPrograms

/-!
# The terminal of the access command

The command puts the terminal in raw mode for the session and sets it back afterwards, on
every path. Unless setting it back fails, each line is printed in the mode that the command
found, and the terminal is left in it. A session runs for a user who authenticated, and in
raw mode only.
-/
namespace PamMvp.TerminalRestoration
open InteractionPrograms SharedPrograms PreservingPrograms PythonText DomainModel
  RuntimeConfiguration AccessCommand

section Console

structure OpenedSession where
  principal : AuthenticatedPrincipal
  request : AccessRequest
  mode : ℕ

/-- The mode of the terminal, the lines with the mode they were printed in, the users who
authenticated, the sessions, and whether setting attributes has failed. -/
structure Console where
  mode : ℕ
  printed : List (PyStr × ℕ)
  granted : List (PyStr × AuthenticatedPrincipal)
  sessions : List OpenedSession
  stuck : Bool

def Console.found (mode : ℕ) : Console := ⟨mode, [], [], [], false⟩

/-- A call that fails may change the mode, and so may other programs during a session. -/
def Serves (raw : ℕ → ℕ) : Server cliSignature Console
  | t, .print text, _, t' => t' = { t with printed := t.printed ++ [(text, t.mode)] }
  | t, .authenticate username _, r, t' =>
    match r with
    | .ok principal => t' = { t with granted := t.granted ++ [(username, principal)] }
    | .error _ => t' = t
  | t, .tcgetattr _, r, t' => (∀ attributes, r = .ok attributes → attributes = t.mode) ∧ t' = t
  | t, .setraw _, r, t' => ∃ mode, (∀ u, r = .ok u → mode = raw t.mode) ∧
    t' = { t with mode := mode }
  | t, .tcsetattr _ _ attributes, r, t' =>
    match r with
    | .ok _ => t' = { t with mode := attributes }
    | .error _ => ∃ mode, t' = { t with mode := mode, stuck := true }
  | t, .handle principal request, _, t' => ∃ mode,
    t' = { t with mode := mode, sessions := t.sessions ++ [⟨principal, request, t.mode⟩] }
  | t, _, _, t' => t' = t

def privilegedSessionFailed : PyStr := py "Privileged session failed."

/-- The session is that of a user who authenticated under the name that was given. -/
structure Authorized (parsed : AccessArguments) (granted : List (PyStr × AuthenticatedPrincipal))
    (session : OpenedSession) : Prop where
  authenticated : (parsed.username, session.principal) ∈ granted
  user : session.request.userId = session.principal.userId
  target : session.request.targetId = parsed.targetId

/-- What the command leaves behind in a terminal that was in this mode. -/
structure LeftBehind (raw : ℕ → ℕ) (parsed : AccessArguments) (mode : ℕ)
    (o : Outcome cliSignature ℕ) (t : Console) : Prop where
  restored : t.stuck = false → t.mode = mode
  reported : t.stuck = true → o = .ret exitSessionFailed ∨ ∃ e, o = .raise e
  lines : ∀ line ∈ t.printed, line.2 = mode ∨ t.stuck = true ∧ line.1 = privilegedSessionFailed
  sessions : t.sessions = [] ∨ ∃ session, t.sessions = [session] ∧ session.mode = raw mode ∧
    Authorized parsed t.granted session

end Console

section Quiet

variable {raw : ℕ → ℕ} {mode : ℕ} {t t' : Console} {α : Type}

/-- The mode stays, and what is printed is printed in it. -/
structure Quiet (t t' : Console) : Prop where
  mode : t'.mode = t.mode
  stuck : t'.stuck = t.stuck
  sessions : t'.sessions = t.sessions
  granted : t.granted ⊆ t'.granted
  printed : ∀ line ∈ t'.printed, line ∈ t.printed ∨ line.2 = t.mode

theorem quiet_refl (t : Console) : Quiet t t :=
  ⟨rfl, rfl, rfl, fun _ h => h, fun _ h => .inl h⟩

instance : IsPreorder Console Quiet where
  refl := quiet_refl
  trans t t' t'' h h' := by
    refine ⟨h'.mode.trans h.mode, h'.stuck.trans h.stuck, h'.sessions.trans h.sessions,
      fun _ hg => h'.granted (h.granted hg), fun line hline => ?_⟩
    rcases h'.printed line hline with hbefore | hmode
    · exact h.printed line hbefore
    · exact .inr (hmode.trans h.mode)

/-- The calls other than those of the session and of the terminal mode. -/
def CliCall.Quiet : CliCall → Prop
  | .setraw _ => False
  | .tcsetattr _ _ _ => False
  | .handle _ _ => False
  | _ => True

theorem serves_quiet {c : CliCall} {r : Reply cliSignature c} (hc : CliCall.Quiet c)
    (h : Serves raw t c r t') : Quiet t t' := by
  cases c with
  | print text =>
    obtain rfl := h
    refine ⟨rfl, rfl, rfl, fun _ hg => hg, fun line hline => ?_⟩
    rcases List.mem_append.mp hline with hbefore | hnew
    · exact .inl hbefore
    · rw [List.mem_singleton.mp hnew]
      exact .inr rfl
  | authenticate username password =>
    cases r with
    | ok principal =>
      obtain rfl := h
      exact ⟨rfl, rfl, rfl, List.subset_append_left _ _, fun _ hline => .inl hline⟩
    | error e =>
      obtain rfl := h
      exact quiet_refl t'
  | tcgetattr fd =>
    obtain ⟨-, rfl⟩ := h
    exact quiet_refl t'
  | setraw fd => exact hc.elim
  | tcsetattr fd attributes => exact hc.elim
  | handle principal request => exact hc.elim
  | _ =>
    obtain rfl := h
    exact quiet_refl _

theorem ask_quiet (c : CliCall) (hc : CliCall.Quiet c) : Preserves (Serves raw) Quiet (ask c) :=
  preserves_perform fun _ _ _ h => serves_quiet hc h

theorem allPresent_quiet (runtimeDir : PyStr) (filenames : List PyStr) :
    Preserves (Serves raw) Quiet (allPresent runtimeDir filenames) := by
  induction filenames with
  | nil => exact preserves_pure true
  | cons filename filenames ih =>
    refine (ask_quiet (.isFile _) trivial).bind fun found => ?_
    cases found with
    | false => exact preserves_pure false
    | true =>
      refine (ask_quiet (.size _) trivial).bind fun size => ?_
      split_ifs
      · exact ih
      · exact preserves_pure false

theorem runtimeIsProvisioned_quiet (runtimeDir : PyStr) :
    Preserves (Serves raw) Quiet (runtimeIsProvisioned runtimeDir) := by
  refine Preserves.tryExcept ?_ fun e => ?_
  · refine (ask_quiet (.lstat _) trivial).bind fun st => ?_
    split_ifs
    · exact allPresent_quiet runtimeDir requiredFiles
    · exact preserves_pure false
  · split_ifs
    · exact preserves_pure false
    · exact preserves_raise (S := cliSignature) e

theorem startApplication_quiet (parsed : AccessArguments) :
    Preserves (Serves raw) Quiet (startApplication parsed) :=
  (preserves_ofReply (S := cliSignature) _).bind fun _ => ask_quiet (.buildApplication _) trivial

theorem report_quiet (result : PamCalls.AccessResult) :
    Preserves (Serves raw) Quiet (report result) :=
  (ask_quiet (.print _) trivial).bind fun _ => preserves_pure _

end Quiet

section Stages

variable {raw : ℕ → ℕ} {mode : ℕ} {parsed : AccessArguments} {t t' : Console} {α : Type}

/-- After the line of a handler. -/
def Reported (Q : Outcome cliSignature ℕ → Console → Prop) (code : ℕ) :
    Outcome cliSignature Unit → Console → Prop
  | .ret _, t => Q (.ret code) t
  | .raise e, t => Q (.raise e) t

theorem print_ensures {Q : Outcome cliSignature ℕ → Console → Prop} (line : PyStr × ℕ)
    (h : ∀ o t', Quiet t t' → Q o t') :
    EnsuresOn (Serves raw) (ask (.print line.1)) t (Reported Q line.2) := by
  refine (ask_quiet (.print line.1) trivial t).mono fun o t' hquiet => ?_
  cases o with
  | ret _ => exact h _ t' hquiet
  | raise e => exact h _ t' hquiet

/-- A stage ends as its program or its handler, or as what comes after it. -/
theorem stage_ensures {p : Cli α} {handlers : PyExn → Option (PyStr × ℕ)} {rest : α → Cli ℕ}
    {P : Outcome cliSignature α → Console → Prop} {Q : Outcome cliSignature ℕ → Console → Prop}
    (hp : EnsuresOn (Serves raw) p t P)
    (hret : ∀ a t', P (.ret a) t' → EnsuresOn (Serves raw) (rest a) t' Q)
    (hhandled : ∀ e line t', P (.raise e) t' → handlers e = some line →
      EnsuresOn (Serves raw) (ask (.print line.1)) t' (Reported Q line.2))
    (hraise : ∀ e t', P (.raise e) t' → handlers e = none → Q (.raise e) t') :
    EnsuresOn (Serves raw) (stage p handlers rest) t Q := by
  refine EnsuresOn.bind (P := fun (o : Outcome cliSignature (α ⊕ PyStr × ℕ)) t' => match o with
    | .ret (.inl a) => P (.ret a) t'
    | .ret (.inr line) => ∃ e, P (.raise e) t' ∧ handlers e = some line
    | .raise e => P (.raise e) t' ∧ handlers e = none) ?_ ?_ ?_
  · refine EnsuresOn.tryExcept (P := fun (o : Outcome cliSignature (α ⊕ PyStr × ℕ)) t' =>
      match o with
      | .ret (.inl a) => P (.ret a) t'
      | .ret (.inr _) => False
      | .raise e => P (.raise e) t') ?_ ?_ ?_
    · exact hp.bind (fun a t' h => ensuresOn_ret _ h) fun e t' h => h
    · intro ended t' h
      cases ended with
      | inl a => exact h
      | inr line => exact h.elim
    · intro e t' h
      cases hline : handlers e with
      | none => exact ensuresOn_raise (S := cliSignature) e ⟨h, hline⟩
      | some line => exact ensuresOn_ret _ ⟨e, h, hline⟩
  · intro ended t' h
    cases ended with
    | inl a => exact hret a t' h
    | inr line =>
      obtain ⟨e, h, hline⟩ := h
      exact (hhandled e line t' h hline).bind (fun _ t'' h => ensuresOn_ret _ h) fun e t'' h => h
  · intro e t' h
    exact hraise e t' h.1 h.2

/-- Before the session. -/
structure Waiting (mode : ℕ) (t : Console) : Prop where
  unchanged : t.mode = mode
  stuck : t.stuck = false
  sessions : t.sessions = []
  printed : ∀ line ∈ t.printed, line.2 = mode

theorem Waiting.quiet (h : Waiting mode t) (hquiet : Quiet t t') : Waiting mode t' := by
  refine ⟨hquiet.mode.trans h.unchanged, hquiet.stuck.trans h.stuck,
    hquiet.sessions.trans h.sessions, fun line hline => ?_⟩
  rcases hquiet.printed line hline with hbefore | hmode
  · exact h.printed line hbefore
  · exact hmode.trans h.unchanged

theorem Waiting.leftBehind {o : Outcome cliSignature ℕ} (h : Waiting mode t) :
    LeftBehind raw parsed mode o t := by
  refine ⟨fun _ => h.unchanged, fun hstuck => ?_, fun line hline => .inl (h.printed line hline),
    .inl h.sessions⟩
  rw [h.stuck] at hstuck
  cases hstuck

/-- A quiet stage before the session. -/
theorem stage_waiting {p : Cli α} {handlers : PyExn → Option (PyStr × ℕ)} {rest : α → Cli ℕ}
    (h : Waiting mode t) (hp : Preserves (Serves raw) Quiet p)
    (hrest : ∀ a t', Waiting mode t' →
      EnsuresOn (Serves raw) (rest a) t' (LeftBehind raw parsed mode)) :
    EnsuresOn (Serves raw) (stage p handlers rest) t (LeftBehind raw parsed mode) := by
  refine stage_ensures (P := fun _ t' => Waiting mode t') ?_ hrest ?_ ?_
  · exact (hp t).mono fun _ _ hquiet => h.quiet hquiet
  · intro e line t' hwaiting _
    exact print_ensures line fun o t'' hquiet => (hwaiting.quiet hquiet).leftBehind
  · intro e t' hwaiting _
    exact hwaiting.leftBehind

end Stages

section Session

variable {raw : ℕ → ℕ} {mode : ℕ} {parsed : AccessArguments} {t : Console}
  {principal : AuthenticatedPrincipal} {request : AccessRequest}

/-- After the session, or the failed attempt to open one. -/
structure Ran (raw : ℕ → ℕ) (principal : AuthenticatedPrincipal) (request : AccessRequest)
    (t : Console) (o : Outcome cliSignature PamCalls.AccessResult) (t' : Console) : Prop where
  restored : t'.stuck = false → t'.mode = t.mode
  raised : t'.stuck = true → ∃ e, o = .raise e
  printed : t'.printed = t.printed
  granted : t'.granted = t.granted
  sessions : t'.sessions = [] ∨ t'.sessions = [⟨principal, request, raw t.mode⟩]

theorem tcsetattr_ensures (fd : ℤ) (when : TcWhen) (attributes : ℕ) (t : Console) :
    EnsuresOn (Serves raw) (ask (.tcsetattr fd when attributes)) t fun o t' => match o with
      | .ret _ => t' = { t with mode := attributes }
      | .raise _ => ∃ mode, t' = { t with mode := mode, stuck := true } :=
  ensuresOn_perform (fun _ _ h => h) fun _ _ h => h

variable (principal request) in
/-- When raw mode cannot be set, the terminal is set back at once. -/
theorem setraw_ensures (fd : ℤ) (h : Waiting mode t) :
    EnsuresOn (Serves raw) ((ask (.setraw fd)).tryExcept fun e => do
      ask (.tcsetattr fd .now mode)
      throw e) t fun o t' => match o with
        | .ret _ => t' = { t with mode := raw mode }
        | .raise e => ∀ o, o = .raise e → Ran raw principal request t o t' := by
  refine EnsuresOn.tryExcept (P := fun o t' => match o with
    | .ret _ => t' = { t with mode := raw mode }
    | .raise _ => ∃ mode', t' = { t with mode := mode' }) ?_ (fun _ _ hset => hset) ?_
  · refine ensuresOn_perform (fun u t' hserve => ?_) fun e t' hserve => ?_
    · obtain ⟨mode', hmode, rfl⟩ := hserve
      rw [hmode u rfl, h.unchanged]
    · obtain ⟨mode', -, rfl⟩ := hserve
      exact ⟨mode', rfl⟩
  · intro e t' hfailed
    obtain ⟨mode', rfl⟩ := hfailed
    refine (tcsetattr_ensures fd .now mode _).bind (fun _ t' hset => ?_) fun e' t' hset => ?_
    · obtain rfl := hset
      refine ensuresOn_raise (S := cliSignature) e fun o ho => ?_
      exact ⟨fun _ => h.unchanged.symm, fun _ => ⟨e, ho⟩, rfl, rfl, .inl h.sessions⟩
    · obtain ⟨mode'', rfl⟩ := hset
      intro o ho
      exact ⟨fun hstuck => (by cases hstuck), fun _ => ⟨e', ho⟩, rfl, rfl, .inl h.sessions⟩

/-- However the session ends, the terminal is set back. -/
theorem handle_ensures (fd : ℤ) (h : Waiting mode t) :
    EnsuresOn (Serves raw) ((ask (.handle principal request)).tryFinally
      (ask (.tcsetattr fd .drain mode))) { t with mode := raw mode }
      (Ran raw principal request t) := by
  refine EnsuresOn.tryFinally (P := fun _ t' => ∃ mode', t' = { t with
    mode := mode', sessions := [⟨principal, request, raw mode⟩] }) ?_ ?_
  · have hhandle : ∀ r t', Serves raw { t with mode := raw mode } (.handle principal request) r t' →
        ∃ mode', t' = { t with mode := mode', sessions := [⟨principal, request, raw mode⟩] } := by
      intro r t' hserve
      obtain ⟨mode', rfl⟩ := hserve
      rw [h.sessions]
      exact ⟨mode', rfl⟩
    exact ensuresOn_perform (fun _ _ hserve => hhandle _ _ hserve) fun _ _ hserve =>
      hhandle _ _ hserve
  · intro o t' hended
    obtain ⟨mode', rfl⟩ := hended
    refine (tcsetattr_ensures fd .drain mode _).mono fun o' t' hset => ?_
    cases o' with
    | ret u =>
      obtain rfl := hset
      exact ⟨fun _ => h.unchanged.symm, fun hstuck => absurd hstuck (by simp [h.stuck]), rfl, rfl,
        .inr (by rw [h.unchanged])⟩
    | raise e =>
      obtain ⟨mode'', rfl⟩ := hset
      exact ⟨fun hstuck => (by cases hstuck), fun _ => ⟨e, rfl⟩, rfl, rfl,
        .inr (by rw [h.unchanged])⟩

theorem executeInteractiveAccess_ensures (h : Waiting mode t) :
    EnsuresOn (Serves raw) (executeInteractiveAccess principal request) t
      (Ran raw principal request t) := by
  have hnone (o : Outcome cliSignature PamCalls.AccessResult) : Ran raw principal request t o t :=
    ⟨fun _ => rfl, fun hstuck => absurd hstuck (by simp [h.stuck]), rfl, rfl,
      .inl h.sessions⟩
  refine EnsuresOn.bind (P := fun _ t' => t' = t) ?_ ?_ ?_
  · exact ensuresOn_perform (fun _ _ hserve => hserve) fun _ _ hserve => hserve
  · intro fd t' hsame
    subst hsame
    split_ifs
    · exact ensuresOn_raise (S := cliSignature) _ (hnone _)
    refine EnsuresOn.bind (P := fun o t'' => t'' = t' ∧ ∀ attributes, o = .ret attributes →
      attributes = mode) ?_ ?_ ?_
    · refine ensuresOn_perform (fun attributes t'' hserve => ?_) fun e t'' hserve => ?_
      · refine ⟨hserve.2, fun attributes' hret => ?_⟩
        cases hret
        exact (hserve.1 attributes rfl).trans h.unchanged
      · exact ⟨hserve.2, fun attributes hret => by cases hret⟩
    · intro attributes t'' hattributes
      obtain ⟨rfl, hmode⟩ := hattributes
      obtain rfl := hmode attributes rfl
      refine (setraw_ensures principal request fd h).bind (fun _ t₁ hset => ?_) fun e t₁ hend => ?_
      · obtain rfl := hset
        exact handle_ensures fd h
      · exact hend _ rfl
    · intro e t'' hattributes
      rw [hattributes.1]
      exact hnone _
  · intro e t' hsame
    rw [hsame]
    exact hnone _

end Session

section Command

variable {raw : ℕ → ℕ} {mode : ℕ} {parsed : AccessArguments} {t t' : Console}
  {principal : AuthenticatedPrincipal} {request : AccessRequest}

/-- After the session, with the terminal as it was. -/
structure Finished (raw : ℕ → ℕ) (parsed : AccessArguments) (mode : ℕ) (t : Console) : Prop where
  unchanged : t.mode = mode
  stuck : t.stuck = false
  printed : ∀ line ∈ t.printed, line.2 = mode
  sessions : t.sessions = [] ∨ ∃ session, t.sessions = [session] ∧ session.mode = raw mode ∧
    Authorized parsed t.granted session

theorem Finished.quiet (h : Finished raw parsed mode t) (hquiet : Quiet t t') :
    Finished raw parsed mode t' := by
  refine ⟨hquiet.mode.trans h.unchanged, hquiet.stuck.trans h.stuck, fun line hline => ?_, ?_⟩
  · rcases hquiet.printed line hline with hbefore | hmode
    · exact h.printed line hbefore
    · exact hmode.trans h.unchanged
  · rw [hquiet.sessions]
    refine h.sessions.imp_right fun hsession => ?_
    obtain ⟨session, hsessions, hraw, hauthorized⟩ := hsession
    exact ⟨session, hsessions, hraw, hquiet.granted hauthorized.authenticated,
      hauthorized.user, hauthorized.target⟩

theorem Finished.leftBehind {o : Outcome cliSignature ℕ} (h : Finished raw parsed mode t) :
    LeftBehind raw parsed mode o t :=
  ⟨fun _ => h.unchanged, fun hstuck => absurd hstuck (by simp [h.stuck]),
    fun line hline => .inl (h.printed line hline), h.sessions⟩

theorem report_ensures (result : PamCalls.AccessResult) (h : Finished raw parsed mode t) :
    EnsuresOn (Serves raw) (stage (report result) reportFailed fun code => return code) t
      (LeftBehind raw parsed mode) := by
  refine stage_ensures (P := fun _ t' => Finished raw parsed mode t') ?_ ?_ ?_ ?_
  · exact (report_quiet result t).mono fun _ _ hquiet => h.quiet hquiet
  · intro code t' hfinished
    exact ensuresOn_ret code hfinished.leftBehind
  · intro e line t' hfinished _
    exact print_ensures line fun o t'' hquiet => (hfinished.quiet hquiet).leftBehind
  · intro e t' hfinished _
    exact hfinished.leftBehind

/-- What the session left, seen from before it. -/
theorem Ran.sessions_authorized {o : Outcome cliSignature PamCalls.AccessResult}
    (h : Ran raw principal request t o t') (hwaiting : Waiting mode t)
    (hauthorized : Authorized parsed t.granted ⟨principal, request, raw mode⟩) :
    t'.sessions = [] ∨ ∃ session, t'.sessions = [session] ∧ session.mode = raw mode ∧
      Authorized parsed t'.granted session := by
  rw [h.granted]
  refine h.sessions.imp_right fun hsessions => ?_
  rw [hwaiting.unchanged] at hsessions
  exact ⟨_, hsessions, rfl, hauthorized⟩

/-- The line after a session that failed, where setting the terminal back may have failed. -/
theorem sessionFailed_ensures {e : PyExn} (h : Ran raw principal request t (.raise e) t')
    (hwaiting : Waiting mode t)
    (hauthorized : Authorized parsed t.granted ⟨principal, request, raw mode⟩) :
    EnsuresOn (Serves raw) (ask (.print privilegedSessionFailed)) t'
      (Reported (LeftBehind raw parsed mode) exitSessionFailed) := by
  have hleft (o : Outcome cliSignature ℕ)
      (ho : o = .ret exitSessionFailed ∨ ∃ e, o = .raise e) : LeftBehind raw parsed mode o
        { t' with printed := t'.printed ++ [(privilegedSessionFailed, t'.mode)] } := by
    refine ⟨fun hstuck => (h.restored hstuck).trans hwaiting.unchanged, fun _ => ho,
      fun line hline => ?_, h.sessions_authorized hwaiting hauthorized⟩
    rcases List.mem_append.mp hline with hbefore | hnew
    · rw [h.printed] at hbefore
      exact .inl (hwaiting.printed line hbefore)
    · rw [List.mem_singleton.mp hnew]
      cases hstuck : t'.stuck with
      | false => exact .inl ((h.restored hstuck).trans hwaiting.unchanged)
      | true => exact .inr ⟨rfl, rfl⟩
  refine ensuresOn_perform (fun _ t'' hserve => ?_) fun e' t'' hserve => ?_
  · obtain rfl := hserve
    exact hleft _ (.inl rfl)
  · obtain rfl := hserve
    exact hleft _ (.inr ⟨e', rfl⟩)

theorem requestAccess_ensures (hwaiting : Waiting mode t)
    (hauthorized : Authorized parsed t.granted ⟨principal, request, raw mode⟩) :
    EnsuresOn (Serves raw) (requestAccess parsed principal request) t
      (LeftBehind raw parsed mode) := by
  refine (ask_quiet (.print (requestLine parsed)) trivial t).bind (fun _ t₁ hquiet => ?_)
    fun e t₁ hquiet => (hwaiting.quiet hquiet).leftBehind
  have hwaiting₁ := hwaiting.quiet hquiet
  have hauthorized₁ : Authorized parsed t₁.granted ⟨principal, request, raw mode⟩ :=
    ⟨hquiet.granted hauthorized.authenticated, hauthorized.user, hauthorized.target⟩
  refine stage_ensures (executeInteractiveAccess_ensures hwaiting₁) ?_ ?_ ?_
  · intro result t₂ hran
    have hrestored : t₂.stuck = false := by
      rw [← Bool.not_eq_true]
      intro hstuck
      obtain ⟨e, he⟩ := hran.raised hstuck
      cases he
    refine report_ensures result ⟨?_, hrestored, fun line hline => ?_, ?_⟩
    · exact (hran.restored hrestored).trans hwaiting₁.unchanged
    · rw [hran.printed] at hline
      exact hwaiting₁.printed line hline
    · exact hran.sessions_authorized hwaiting₁ hauthorized₁
  · intro e line t₂ hran hline
    cases hline
    exact sessionFailed_ensures hran hwaiting₁ hauthorized₁
  · intro e t₂ hran hnone
    cases hnone

/-- The request is one of the principal, for the target. -/
theorem newRequest_ensures (principal : AuthenticatedPrincipal) (t : Console) :
    EnsuresOn (Serves raw) (newRequest parsed principal) t fun o t' => Quiet t t' ∧
      ∀ request, o = .ret request →
        request.userId = principal.userId ∧ request.targetId = parsed.targetId := by
  refine (ask_quiet .newId trivial t).bind (fun id t₁ hquiet => ?_)
    fun e t₁ hquiet => ⟨hquiet, fun request hret => by cases hret⟩
  refine (ask_quiet .now trivial t₁).bind (fun requestedAt t₂ hquiet₂ => ?_)
    fun e t₂ hquiet₂ => ⟨trans_of Quiet hquiet hquiet₂, fun request hret => by cases hret⟩
  refine ensuresOn_ofReply (S := cliSignature) (fun request hrequest => ?_) fun e _ =>
    ⟨trans_of Quiet hquiet hquiet₂, fun request hret => by cases hret⟩
  refine ⟨trans_of Quiet hquiet hquiet₂, fun request' hret => ?_⟩
  cases hret
  simp only [AccessRequest.postInit, except_bind_ok_iff] at hrequest
  obtain ⟨-, -, -, -, -, -, hrequest⟩ := hrequest
  split_ifs at hrequest
  cases hrequest
  exact ⟨rfl, rfl⟩

theorem authenticateAndRequest_ensures (pamPassword : PyStr) (hwaiting : Waiting mode t) :
    EnsuresOn (Serves raw) (authenticateAndRequest parsed pamPassword) t
      (LeftBehind raw parsed mode) := by
  refine stage_ensures (P := fun o t' => Waiting mode t' ∧ ∀ principal, o = .ret principal →
    (parsed.username, principal) ∈ t'.granted) ?_ ?_ ?_ ?_
  · have hquiet {r : Except PyExn AuthenticatedPrincipal} {t' : Console}
        (h : Serves raw t (.authenticate parsed.username pamPassword) r t') : Quiet t t' :=
      serves_quiet (c := .authenticate _ _) trivial h
    refine ensuresOn_perform (fun principal t' hserve => ?_) fun e t' hserve => ?_
    · refine ⟨hwaiting.quiet (hquiet hserve), fun principal' hret => ?_⟩
      cases hret
      obtain rfl := hserve
      exact List.mem_append_right _ (List.mem_singleton_self _)
    · exact ⟨hwaiting.quiet (hquiet hserve), fun principal hret => by cases hret⟩
  · intro principal t₁ h
    obtain ⟨hwaiting₁, hgranted⟩ := h
    refine stage_ensures (newRequest_ensures principal t₁) ?_ ?_ ?_
    · intro request t₂ h
      obtain ⟨hquiet, hrequest⟩ := h
      obtain ⟨huser, htarget⟩ := hrequest request rfl
      exact requestAccess_ensures (hwaiting₁.quiet hquiet)
        ⟨hquiet.granted (hgranted principal rfl), huser, htarget⟩
    · intro e line t₂ h _
      exact print_ensures line fun o t' hquiet => ((hwaiting₁.quiet h.1).quiet hquiet).leftBehind
    · intro e t₂ h _
      exact (hwaiting₁.quiet h.1).leftBehind
  · intro e line t₁ h _
    exact print_ensures line fun o t' hquiet => (h.1.quiet hquiet).leftBehind
  · intro e t₁ h _
    exact h.1.leftBehind

/-- However the command ends, and whatever fails in it. -/
theorem runAccess_restores (raw : ℕ → ℕ) (parsed : AccessArguments) (mode : ℕ) :
    EnsuresOn (Serves raw) (runAccess parsed) (.found mode) (LeftBehind raw parsed mode) := by
  have hwaiting : Waiting mode (.found mode) := ⟨rfl, rfl, rfl, by simp [Console.found]⟩
  refine (runtimeIsProvisioned_quiet parsed.runtimeDir _).bind (fun provisioned t₁ hquiet => ?_)
    fun e t₁ hquiet => (hwaiting.quiet hquiet).leftBehind
  have hwaiting₁ := hwaiting.quiet hquiet
  split_ifs
  · refine stage_waiting hwaiting₁ (startApplication_quiet parsed) fun _ t₂ hwaiting₂ => ?_
    refine stage_waiting hwaiting₂ (ask_quiet (.getpass _) trivial) fun pamPassword t₃ h => ?_
    exact authenticateAndRequest_ensures pamPassword h
  · refine (ask_quiet (.print _) trivial t₁).bind (fun _ t₂ hquiet₂ => ?_) fun e t₂ hquiet₂ =>
      (hwaiting₁.quiet hquiet₂).leftBehind
    exact ensuresOn_ret _ (hwaiting₁.quiet hquiet₂).leftBehind

end Command

end PamMvp.TerminalRestoration
