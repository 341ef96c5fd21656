import PamMvp.AccessHandling
import PamMvp.KeyFiles
import PamMvp.RuntimeConfiguration

/-!
# The access command

`_run_access` is a chain of stages, each under handlers of its own that turn exceptions
into a printed line and an exit code. Three of its statements stand outside them: looking
at a runtime directory whose text is no path, a prompt that fails otherwise than by the
end of its input, and the line that repeats the target id.
-/
namespace PamMvp.AccessCommand
open InteractionPrograms SharedPrograms PythonText DateTimes DomainModel PamCalls AccessHandling
  RuntimeConfiguration

structure AccessArguments where
  runtimeDir : PyStr
  username : PyStr
  targetId : PyStr
  maxSessionSeconds : PyFloat

section Command

inductive TcWhen where
  | now | drain

inductive CliCall where
  | lstat (path : PyStr)
  | isFile (path : RuntimePath)
  | size (path : RuntimePath)
  | buildApplication (settings : RuntimeSettings)
  | getpass (prompt : PyStr)
  | authenticate (username password : PyStr)
  | newId
  | now
  | print (text : PyStr)
  | fileno
  | tcgetattr (fd : ℤ)
  | setraw (fd : ℤ)
  | tcsetattr (fd : ℤ) (when : TcWhen) (attributes : ℕ)
  | handle (principal : AuthenticatedPrincipal) (request : AccessRequest)

abbrev CliCall.Answer : CliCall → Type
  | .lstat _ => ℕ
  | .isFile _ => Bool
  | .size _ => ℕ
  | .getpass _ => PyStr
  | .authenticate _ _ => AuthenticatedPrincipal
  | .newId => PyStr
  | .now => DateTime
  | .fileno => ℤ
  | .tcgetattr _ => ℕ
  | .handle _ _ => AccessResult
  | _ => Unit

abbrev cliSignature : Signature := ⟨CliCall, CliCall.Answer, PyExn⟩

abbrev Cli (α : Type) : Type := Prog cliSignature Unit α

def ask (c : CliCall) : Cli c.Answer := Prog.perform (S := cliSignature) c

def throw {α : Type} (e : PyExn) : Cli α := Prog.raise (S := cliSignature) e

def lift {α : Type} (r : Except PyExn α) : Cli α := Prog.ofReply (S := cliSignature) r

def exitSuccess : ℕ := 0

def exitInternalFailure : ℕ := 1

def exitAuthenticationFailed : ℕ := 2

def exitAccessDenied : ℕ := 3

def exitSessionFailed : ℕ := 4

def exitCodes : List ℕ :=
  [exitSuccess, exitInternalFailure, exitAuthenticationFailed, exitAccessDenied, exitSessionFailed]

def requiredFiles : List PyStr :=
  [py "vault.key", py "audit.key", py "auth.db", py "config.db", py "vault.db"]

/-- `all(...)` over the files, which stops at the first that is missing or empty. -/
def allPresent (runtimeDir : PyStr) : List PyStr → Cli Bool
  | [] => return true
  | filename :: filenames => do
    if ← ask (.isFile ⟨runtimeDir, filename⟩) then
      if 0 < (← ask (.size ⟨runtimeDir, filename⟩)) then allPresent runtimeDir filenames
      else return false
    else return false

/-- `_runtime_is_provisioned`. -/
def runtimeIsProvisioned (runtimeDir : PyStr) : Cli Bool :=
  (do
    let mode ← ask (.lstat runtimeDir)
    if KeyFiles.isDirectory mode && KeyFiles.permissions mode == 0o700 then
      allPresent runtimeDir requiredFiles
    else return false).tryExcept fun e =>
      if e.cls = ExnClass.osError then return false else throw e

/-- `try: p` with handlers that print a line and return an exit code, and then `rest`.
An exception without a handler goes on. -/
def stage {α : Type} (p : Cli α) (handlers : PyExn → Option (PyStr × ℕ)) (rest : α → Cli ℕ) :
    Cli ℕ := do
  let ended : α ⊕ PyStr × ℕ ← (Sum.inl <$> p).tryExcept fun e => match handlers e with
    | some line => return .inr line
    | none => throw e
  match ended with
  | .inl a => rest a
  | .inr (message, code) => do
    ask (.print message)
    return code

def startupFailed (e : PyExn) : Option (PyStr × ℕ) :=
  if e.isException then
    some (py "Application startup failed. Check the provisioned runtime.", exitInternalFailure)
  else none

def promptEnded (e : PyExn) : Option (PyStr × ℕ) :=
  if e.cls = .eofError ∨ e.cls = .keyboardInterrupt then
    some (py "Authentication failed.", exitAuthenticationFailed)
  else none

def authenticationEnded (e : PyExn) : Option (PyStr × ℕ) :=
  if e.cls = .authenticationFailedError then
    some (py "Authentication failed.", exitAuthenticationFailed)
  else some (py "Application failure.", exitInternalFailure)

def applicationFailed (_ : PyExn) : Option (PyStr × ℕ) :=
  some (py "Application failure.", exitInternalFailure)

def sessionFailed (_ : PyExn) : Option (PyStr × ℕ) :=
  some (py "Privileged session failed.", exitSessionFailed)

def reportFailed (e : PyExn) : Option (PyStr × ℕ) :=
  if e.isException then some (py "Privileged session failed.", exitSessionFailed) else none

def startApplication (parsed : AccessArguments) : Cli Unit := do
  let settings ← lift (runtimeSettings parsed.runtimeDir parsed.maxSessionSeconds)
  ask (.buildApplication settings)

def newRequest (parsed : AccessArguments) (principal : AuthenticatedPrincipal) :
    Cli AccessRequest := do
  let id ← ask .newId
  let requestedAt ← ask .now
  lift (AccessRequest.postInit
    ⟨id, principal.userId, parsed.targetId, .openPrivilegedSession, requestedAt⟩)

/-- `_execute_interactive_access` in `raw_terminal_mode`. -/
def executeInteractiveAccess (principal : AuthenticatedPrincipal) (request : AccessRequest) :
    Cli AccessResult := do
  let fd ← ask .fileno
  if fd < 0 then
    throw (raised .valueError (py "terminal file descriptor must be nonnegative"))
  else
    let attributes ← ask (.tcgetattr fd)
    (ask (.setraw fd)).tryExcept fun e => do
      ask (.tcsetattr fd .now attributes)
      throw e
    (ask (.handle principal request)).tryFinally (ask (.tcsetattr fd .drain attributes))

/-- `_report_access_result`. -/
def report (result : AccessResult) : Cli ℕ := do
  ask (.print (reportAccessResult result).1)
  return (reportAccessResult result).2

def requestLine (parsed : AccessArguments) : PyStr :=
  py "Authenticated. Requesting access to " ++ parsed.targetId ++ py "..."

/-- The end of `_run_access`, with the request made. -/
def requestAccess (parsed : AccessArguments) (principal : AuthenticatedPrincipal)
    (request : AccessRequest) : Cli ℕ := do
  ask (.print (requestLine parsed))
  stage (executeInteractiveAccess principal request) sessionFailed fun result =>
    stage (report result) reportFailed fun code => return code

/-- `_run_access` from the authentication on. -/
def authenticateAndRequest (parsed : AccessArguments) (pamPassword : PyStr) : Cli ℕ :=
  stage (ask (.authenticate parsed.username pamPassword)) authenticationEnded fun principal =>
    stage (newRequest parsed principal) applicationFailed fun request =>
      requestAccess parsed principal request

/-- `_run_access`. -/
def runAccess (parsed : AccessArguments) : Cli ℕ := do
  if ← runtimeIsProvisioned parsed.runtimeDir then
    stage (startApplication parsed) startupFailed fun _ =>
      stage (ask (.getpass (py "PAM password: "))) promptEnded fun pamPassword =>
        authenticateAndRequest parsed pamPassword
  else
    ask (.print (py "Runtime is not provisioned. Run the lab provisioning tool first."))
    return exitInternalFailure

end Command

section World

/-- What a collaborator does: it returns, or it raises an instance of `Exception`. -/
abbrev Behaviour (α : Type) : Type := Except {e : PyExn // e.isException = true} α

def Behaviour.reply {α : Type} (b : Behaviour α) : Except PyExn α := b.mapError Subtype.val

/-- `os.fsencode`; the undecodable bytes of process arguments are these surrogates. -/
def fsEncodable (text : PyStr) : Bool :=
  text.all fun c => ! isSurrogate c || (0xDC80 ≤ c.val && c.val ≤ 0xDCFF)

/-- The text of a path that the system can be asked about. Process arguments hold no NUL. -/
def isPathText (text : PyStr) : Bool :=
  fsEncodable text && text.all fun c => c.val ≠ 0

/-- The collaborators and the file system, where `none` is an `OSError`. -/
structure World where
  lstat : PyStr → Option ℕ
  isFile : RuntimePath → Option Bool
  size : RuntimePath → Option ℕ
  buildApplication : RuntimeSettings → Behaviour Unit
  getpass : Behaviour PyStr
  authenticate : PyStr → PyStr → Behaviour AuthenticatedPrincipal
  newId : Behaviour PyStr
  now : Behaviour DateTime
  fileno : Behaviour ℤ
  tcgetattr : Behaviour ℕ
  setraw : Behaviour Unit
  tcsetattr : TcWhen → Behaviour Unit
  handle : AuthenticatedPrincipal → AccessRequest → Behaviour AccessResult

/-- The texts of system errors are the platform's. -/
def unanswered : PyExn := raised .osError (py "the file system cannot answer")

/-- The text is encoded before it is searched for NUL. -/
def notPath (text : PyStr) : PyExn :=
  if fsEncodable text then raised .valueError (py "embedded null byte")
  else raised .unicodeEncodeError (py "surrogates not allowed")

def notPrinted : PyExn := raised .unicodeEncodeError (py "surrogates not allowed")

def osReply {α : Type} : Option α → Except PyExn α
  | some a => .ok a
  | none => .error unanswered

/-- The state holds the printed lines. A line without a UTF-8 encoding cannot be printed. -/
def World.answer (world : World) (out : List PyStr) :
    (c : CliCall) → Reply cliSignature c × List PyStr
  | .lstat path =>
    if isPathText path then (osReply (world.lstat path), out)
    else (.error (notPath path), out)
  | .isFile path => (osReply (world.isFile path), out)
  | .size path => (osReply (world.size path), out)
  | .buildApplication settings => ((world.buildApplication settings).reply, out)
  | .getpass _ => (world.getpass.reply, out)
  | .authenticate username password => ((world.authenticate username password).reply, out)
  | .newId => (world.newId.reply, out)
  | .now => (world.now.reply, out)
  | .print text =>
    if encodable text then (.ok (), out ++ [text])
    else (.error notPrinted, out)
  | .fileno => (world.fileno.reply, out)
  | .tcgetattr _ => (world.tcgetattr.reply, out)
  | .setraw _ => (world.setraw.reply, out)
  | .tcsetattr _ when _ => ((world.tcsetattr when).reply, out)
  | .handle principal request => ((world.handle principal request).reply, out)

/-- The runtime directory and its files are as `_runtime_is_provisioned` wants them. -/
def Provisioned (world : World) (runtimeDir : PyStr) : Prop :=
  ∃ mode, world.lstat runtimeDir = some mode ∧ KeyFiles.isDirectory mode = true ∧
    KeyFiles.permissions mode = 0o700 ∧
    ∀ filename ∈ requiredFiles, world.isFile ⟨runtimeDir, filename⟩ = some true ∧
      ∃ size, world.size ⟨runtimeDir, filename⟩ = some size ∧ 0 < size

/-- The application can be built. -/
def Started (world : World) (parsed : AccessArguments) : Prop :=
  Provisioned world parsed.runtimeDir ∧
    ∃ settings, runtimeSettings parsed.runtimeDir parsed.maxSessionSeconds = .ok settings ∧
      world.buildApplication settings = .ok ()

/-- A request of the principal for the target can be made. -/
def RequestMade (world : World) (parsed : AccessArguments) (principal : AuthenticatedPrincipal) :
    Prop :=
  ∃ id requestedAt request, world.newId = .ok id ∧ world.now = .ok requestedAt ∧
    AccessRequest.postInit ⟨id, principal.userId, parsed.targetId, .openPrivilegedSession,
      requestedAt⟩ = .ok request

/-- The user authenticates and makes the request. -/
def Requested (world : World) (parsed : AccessArguments) : Prop :=
  ∃ password principal, world.getpass = .ok password ∧
    world.authenticate parsed.username password = .ok principal ∧
    RequestMade world parsed principal

/-- None of the statements outside the handlers is reached with what makes it raise. -/
structure Unobstructed (world : World) (parsed : AccessArguments) : Prop where
  path : isPathText parsed.runtimeDir = true
  prompt : Started world parsed → ∀ e, world.getpass = .error e → e.val.cls = .eofError
  target : Started world parsed → Requested world parsed → encodable parsed.targetId = true

/-- The program returns one of the five exit codes. -/
def Exits (world : World) (p : Cli ℕ) (out : List PyStr) : Prop :=
  ∃ code ∈ exitCodes, ∃ out', execOn world.answer p out = some (.ret code, out')

end World

section Stages

variable {world : World} {α β : Type} {p : Cli α} {out out' : List PyStr} {e : PyExn}
  {message : PyStr} {code : ℕ}

theorem Behaviour.reply_error {b : Behaviour α} (h : b.reply = .error e) :
    e.isException = true ∧ ∃ e', b = .error e' ∧ e'.val = e := by
  cases b with
  | ok a => cases h
  | error e' =>
    cases h
    exact ⟨e'.property, e', rfl, rfl⟩

/-- The program ends, and only with instances of `Exception`. -/
def Ends (world : World) (p : Cli α) : Prop :=
  ∀ out, ∃ out', (∃ a, execOn world.answer p out = some (.ret a, out')) ∨
    ∃ e, execOn world.answer p out = some (.raise e, out') ∧ e.isException = true

theorem osReply_error {answered : Option α} (h : osReply answered = .error e) :
    e.cls = .osError := by
  cases answered with
  | some a => cases h
  | none =>
    cases h
    rfl

theorem exception_of_class {cls : ExnClass} (h : e.cls = cls) (hcls : cls ≠ .keyboardInterrupt) :
    e.isException = true := by
  simp [PyExn.isException, h, hcls]

theorem answer_error {c : CliCall} (h : world.answer out c = (.error e, out')) :
    e.isException = true := by
  have hreply {α : Type} {b : Behaviour α} (h : (b.reply, out) = (.error e, out')) :
      e.isException = true := (Behaviour.reply_error (congrArg Prod.fst h)).1
  have hos {α : Type} {answered : Option α} (h : (osReply answered, out) = (.error e, out')) :
      e.isException = true :=
    exception_of_class (osReply_error (congrArg Prod.fst h)) (by decide)
  cases c with
  | lstat path =>
    rw [World.answer] at h
    split at h
    · exact hos h
    · cases h
      unfold notPath
      split_ifs
      · rfl
      · rfl
  | print text =>
    rw [World.answer] at h
    split at h
    · cases h
    · cases h
      rfl
  | isFile path => exact hos h
  | size path => exact hos h
  | _ => exact hreply h

theorem Ends.ask (c : CliCall) : Ends world (ask c) := by
  intro out
  cases hanswer : world.answer out c with
  | mk reply out' =>
    cases reply with
    | ok a => exact ⟨out', .inl ⟨a, execOn_perform hanswer⟩⟩
    | error e => exact ⟨out', .inr ⟨e, execOn_perform_raise hanswer, answer_error hanswer⟩⟩

theorem Ends.throw (h : e.isException = true) : Ends world (throw e : Cli α) :=
  fun out => ⟨out, .inr ⟨e, rfl, h⟩⟩

theorem Ends.bind {f : α → Cli β} (hp : Ends world p) (hf : ∀ a, Ends world (f a)) :
    Ends world (p >>= f) := by
  intro out
  obtain ⟨out₁, ⟨a, ha⟩ | ⟨e, he, hexception⟩⟩ := hp out
  · obtain ⟨out₂, hrest⟩ := hf a out₁
    refine ⟨out₂, ?_⟩
    rw [execOn_bind _ ha]
    exact hrest
  · exact ⟨out₁, .inr ⟨e, execOn_bind_raise _ he, hexception⟩⟩

theorem Ends.tryExcept {h : PyExn → Cli α} (hp : Ends world p)
    (hh : ∀ e, e.isException = true → Ends world (h e)) : Ends world (p.tryExcept h) := by
  intro out
  obtain ⟨out₁, ⟨a, ha⟩ | ⟨e, he, hexception⟩⟩ := hp out
  · exact ⟨out₁, .inl ⟨a, execOn_tryExcept _ ha⟩⟩
  · obtain ⟨out₂, hrest⟩ := hh e hexception out₁
    refine ⟨out₂, ?_⟩
    rw [execOn_tryExcept_raise _ he]
    exact hrest

theorem Ends.tryFinally {fin : Cli Unit} (hp : Ends world p) (hfin : Ends world fin) :
    Ends world (p.tryFinally fin) := by
  intro out
  obtain ⟨out₁, hbody⟩ := hp out
  obtain ⟨out₂, ⟨u, hret⟩ | ⟨e, hraise, hexception⟩⟩ := hfin out₁
  · refine ⟨out₂, ?_⟩
    rcases hbody with ⟨a, ha⟩ | ⟨e, he, hexception⟩
    · exact .inl ⟨a, execOn_tryFinally ha hret⟩
    · exact .inr ⟨e, execOn_tryFinally he hret, hexception⟩
  · refine ⟨out₂, .inr ⟨e, ?_, hexception⟩⟩
    rcases hbody with ⟨a, ha⟩ | ⟨e', he', -⟩
    · exact execOn_tryFinally_raise ha hraise
    · exact execOn_tryFinally_raise he' hraise

theorem execOn_print (h : encodable message = true) :
    execOn world.answer (ask (.print message)) out = some (.ret (), out ++ [message]) :=
  execOn_perform (by simp [World.answer, h])

theorem execOn_stage {handlers : PyExn → Option (PyStr × ℕ)} {rest : α → Cli ℕ} {a : α}
    (hp : execOn world.answer p out = some (.ret a, out')) :
    execOn world.answer (stage p handlers rest) out = execOn world.answer (rest a) out' := by
  have hbody : execOn world.answer (Sum.inl <$> p : Cli (α ⊕ PyStr × ℕ)) out =
      some (.ret (.inl a), out') := execOn_bind _ hp
  rw [stage, execOn_bind _ (execOn_tryExcept _ hbody)]

theorem execOn_stage_handled {handlers : PyExn → Option (PyStr × ℕ)} {rest : α → Cli ℕ}
    (hp : execOn world.answer p out = some (.raise e, out'))
    (hline : handlers e = some (message, code)) (hmessage : encodable message = true) :
    execOn world.answer (stage p handlers rest) out =
      some (.ret code, out' ++ [message]) := by
  have hbody : execOn world.answer (Sum.inl <$> p : Cli (α ⊕ PyStr × ℕ)) out =
      some (.raise e, out') := execOn_bind_raise _ hp
  have hhandled : execOn world.answer ((Sum.inl <$> p : Cli (α ⊕ PyStr × ℕ)).tryExcept fun e =>
      match handlers e with
      | some line => return .inr line
      | none => throw e) out = some (.ret (.inr (message, code)), out') := by
    rw [execOn_tryExcept_raise _ hbody, hline]
    rfl
  rw [stage, execOn_bind _ hhandled]
  exact execOn_bind _ (execOn_print hmessage)

theorem execOn_stage_raise {handlers : PyExn → Option (PyStr × ℕ)} {rest : α → Cli ℕ}
    (hp : execOn world.answer p out = some (.raise e, out')) (hnone : handlers e = none) :
    execOn world.answer (stage p handlers rest) out = some (.raise e, out') := by
  have hbody : execOn world.answer (Sum.inl <$> p : Cli (α ⊕ PyStr × ℕ)) out =
      some (.raise e, out') := execOn_bind_raise _ hp
  refine execOn_bind_raise _ ?_
  rw [execOn_tryExcept_raise _ hbody, hnone]
  rfl

theorem exits_of_ret {q : Cli ℕ} (h : execOn world.answer q out = some (.ret code, out'))
    (hcode : code ∈ exitCodes) : Exits world q out :=
  ⟨code, hcode, out', h⟩

theorem not_exits_of_raise {q : Cli ℕ} (h : execOn world.answer q out = some (.raise e, out')) :
    ¬ Exits world q out := by
  intro hexits
  obtain ⟨code, -, out'', hret⟩ := hexits
  rw [h] at hret
  cases hret

theorem exits_congr {q q' : Cli ℕ}
    (h : execOn world.answer q out = execOn world.answer q' out') :
    Exits world q out ↔ Exits world q' out' := by
  simp only [Exits, h]

end Stages

section Chain

variable {world : World} {parsed : AccessArguments} {out : List PyStr}

theorem report_line (result : AccessResult) :
    encodable (reportAccessResult result).1 = true ∧ (reportAccessResult result).2 ∈ exitCodes := by
  unfold reportAccessResult
  split
  · exact ⟨encodable_py _, by decide⟩
  · split
    · exact ⟨encodable_py _, by decide⟩
    · split
      · exact ⟨encodable_py _, by decide⟩
      · split
        · exact ⟨encodable_py _, by decide⟩
        · split <;> exact ⟨encodable_py _, by decide⟩

theorem exits_report (result : AccessResult) :
    Exits world (stage (report result) reportFailed fun code => return code) out := by
  obtain ⟨hline, hcode⟩ := report_line result
  have hreport : execOn world.answer (report result) out =
      some (.ret (reportAccessResult result).2, out ++ [(reportAccessResult result).1]) :=
    execOn_bind _ (execOn_print hline)
  exact exits_of_ret (execOn_stage hreport) hcode

theorem executeInteractiveAccess_ends (principal : AuthenticatedPrincipal)
    (request : AccessRequest) : Ends world (executeInteractiveAccess principal request) := by
  refine (Ends.ask .fileno).bind fun fd => ?_
  split
  · exact Ends.throw rfl
  · refine (Ends.ask (.tcgetattr fd)).bind fun attributes => Ends.bind ?_ fun _ => ?_
    · refine (Ends.ask (.setraw fd)).tryExcept fun e hexception => ?_
      exact (Ends.ask (.tcsetattr fd .now attributes)).bind fun _ => Ends.throw hexception
    · exact (Ends.ask (.handle principal request)).tryFinally
        (Ends.ask (.tcsetattr fd .drain attributes))

/-- Every end of the session has a line and an exit code. -/
theorem exits_interactive (principal : AuthenticatedPrincipal) (request : AccessRequest) :
    Exits world (stage (executeInteractiveAccess principal request) sessionFailed fun result =>
      stage (report result) reportFailed fun code => return code) out := by
  obtain ⟨out', ⟨result, hret⟩ | ⟨e, hraise, -⟩⟩ :=
    executeInteractiveAccess_ends principal request out
  · exact (exits_congr (execOn_stage hret)).mpr (exits_report result)
  · exact exits_of_ret (execOn_stage_handled hraise rfl (encodable_py _)) (by decide)

theorem requestLine_encodable (parsed : AccessArguments) :
    encodable (requestLine parsed) = encodable parsed.targetId := by
  simp [requestLine, encodable_py]

/-- The unguarded line decides whether an authenticated request gets through. -/
theorem exits_request_iff (principal : AuthenticatedPrincipal) (request : AccessRequest) :
    Exits world (requestAccess parsed principal request) out ↔
      encodable parsed.targetId = true := by
  rw [← requestLine_encodable, requestAccess]
  cases hline : encodable (requestLine parsed) with
  | true =>
    rw [exits_congr (execOn_bind _ (execOn_print hline))]
    exact iff_of_true (exits_interactive principal request) rfl
  | false =>
    have hraise : execOn world.answer (ask (.print (requestLine parsed))) out =
        some (.raise notPrinted, out) :=
      execOn_perform_raise (by simp [World.answer, hline])
    exact iff_of_false (not_exits_of_raise (execOn_bind_raise _ hraise)) Bool.false_ne_true

theorem newRequest_cases (principal : AuthenticatedPrincipal) :
    (∃ request, execOn world.answer (newRequest parsed principal) out = some (.ret request, out) ∧
      RequestMade world parsed principal) ∨
    ∃ e, execOn world.answer (newRequest parsed principal) out = some (.raise e, out) ∧
      ¬ RequestMade world parsed principal := by
  cases hid : world.newId with
  | error e =>
    refine .inr ⟨e.val, execOn_bind_raise _ (execOn_perform_raise ?_), fun h => ?_⟩
    · simp [World.answer, hid, Behaviour.reply, Except.mapError]
    · obtain ⟨id, -, -, hok, -⟩ := h
      rw [hid] at hok
      cases hok
  | ok id =>
    have hnewId : execOn world.answer (ask .newId) out = some (.ret id, out) :=
      execOn_perform (by simp [World.answer, hid, Behaviour.reply, Except.mapError])
    rw [newRequest, execOn_bind _ hnewId]
    cases hnow : world.now with
    | error e =>
      refine .inr ⟨e.val, execOn_bind_raise _ (execOn_perform_raise ?_), fun h => ?_⟩
      · simp [World.answer, hnow, Behaviour.reply, Except.mapError]
      · obtain ⟨-, requestedAt, -, -, hok, -⟩ := h
        rw [hnow] at hok
        cases hok
    | ok requestedAt =>
      have hclock : execOn world.answer (ask .now) out = some (.ret requestedAt, out) :=
        execOn_perform (by simp [World.answer, hnow, Behaviour.reply, Except.mapError])
      rw [execOn_bind _ hclock]
      cases hrequest : AccessRequest.postInit ⟨id, principal.userId, parsed.targetId,
          .openPrivilegedSession, requestedAt⟩ with
      | ok request => exact .inl ⟨request, rfl, id, requestedAt, request, hid, hnow, hrequest⟩
      | error e =>
        refine .inr ⟨e, rfl, fun h => ?_⟩
        obtain ⟨id', requestedAt', request, hid', hnow', hok⟩ := h
        rw [hid] at hid'
        rw [hnow] at hnow'
        cases hid'
        cases hnow'
        rw [hrequest] at hok
        cases hok

/-- A request that cannot be made ends the command before the line. -/
theorem exits_newRequest_iff (principal : AuthenticatedPrincipal) :
    Exits world (stage (newRequest parsed principal) applicationFailed fun request =>
      requestAccess parsed principal request) out ↔
      (RequestMade world parsed principal → encodable parsed.targetId = true) := by
  rcases newRequest_cases principal with ⟨request, hret, hmade⟩ | ⟨e, hraise, hmade⟩
  · rw [exits_congr (execOn_stage hret), exits_request_iff]
    exact ⟨fun h _ => h, fun h => h hmade⟩
  · refine iff_of_true ?_ fun h => absurd h hmade
    exact exits_of_ret (execOn_stage_handled hraise rfl (encodable_py _)) (by decide)

theorem exits_authenticate_iff (password : PyStr) :
    Exits world (authenticateAndRequest parsed password) out ↔
      ∀ principal, world.authenticate parsed.username password = .ok principal →
        RequestMade world parsed principal → encodable parsed.targetId = true := by
  rw [authenticateAndRequest]
  cases hauthenticate : world.authenticate parsed.username password with
  | ok principal =>
    have hret : execOn world.answer (ask (.authenticate parsed.username password)) out =
        some (.ret principal, out) :=
      execOn_perform (by simp [World.answer, hauthenticate, Behaviour.reply, Except.mapError])
    rw [exits_congr (execOn_stage hret), exits_newRequest_iff]
    constructor
    · intro h principal' hok
      cases hok
      exact h
    · intro h
      exact h principal rfl
  | error e =>
    have hraise : execOn world.answer (ask (.authenticate parsed.username password)) out =
        some (.raise e.val, out) :=
      execOn_perform_raise (by simp [World.answer, hauthenticate, Behaviour.reply, Except.mapError])
    refine iff_of_true ?_ fun principal hok => nomatch hok
    by_cases hcls : e.val.cls = .authenticationFailedError
    · exact exits_of_ret (execOn_stage_handled hraise (if_pos hcls) (encodable_py _)) (by decide)
    · exact exits_of_ret (execOn_stage_handled hraise (if_neg hcls) (encodable_py _)) (by decide)

/-- A failing prompt gets through unless its input has ended. -/
theorem exits_prompt_iff :
    Exits world (stage (ask (.getpass (py "PAM password: "))) promptEnded fun pamPassword =>
      authenticateAndRequest parsed pamPassword) out ↔
      (∀ e, world.getpass = .error e → e.val.cls = .eofError) ∧
        (Requested world parsed → encodable parsed.targetId = true) := by
  cases hgetpass : world.getpass with
  | ok password =>
    have hret : execOn world.answer (ask (.getpass (py "PAM password: "))) out =
        some (.ret password, out) :=
      execOn_perform (by simp [World.answer, hgetpass, Behaviour.reply, Except.mapError])
    rw [exits_congr (execOn_stage hret), exits_authenticate_iff]
    constructor
    · intro h
      refine ⟨fun e he => (nomatch he), fun hrequested => ?_⟩
      obtain ⟨password', principal, hok, hprincipal, hmade⟩ := hrequested
      rw [hgetpass] at hok
      cases hok
      exact h principal hprincipal hmade
    · intro h principal hprincipal hmade
      exact h.2 ⟨password, principal, hgetpass, hprincipal, hmade⟩
  | error e =>
    have hraise : execOn world.answer (ask (.getpass (py "PAM password: "))) out =
        some (.raise e.val, out) :=
      execOn_perform_raise (by simp [World.answer, hgetpass, Behaviour.reply, Except.mapError])
    have hnotRequested : ¬ Requested world parsed := by
      intro h
      obtain ⟨password, -, hok, -⟩ := h
      rw [hgetpass] at hok
      cases hok
    by_cases hcls : e.val.cls = .eofError
    · refine iff_of_true ?_ ⟨fun e' he => ?_, fun h => absurd h hnotRequested⟩
      · exact exits_of_ret (execOn_stage_handled hraise (if_pos (.inl hcls)) (encodable_py _))
          (by decide)
      · cases he
        exact hcls
    · have hnone : promptEnded e.val = none := by
        refine if_neg fun h => h.elim hcls fun hinterrupt => ?_
        have hexception := e.property
        simp [PyExn.isException, hinterrupt] at hexception
      exact iff_of_false (not_exits_of_raise (execOn_stage_raise hraise hnone))
        fun h => hcls (h.1 e rfl)

theorem runtimeSettings_error {runtimeDir : PyStr} {seconds : PyFloat} {e : PyExn}
    (h : runtimeSettings runtimeDir seconds = .error e) : e.isException = true := by
  rcases except_bind_error h with htimedelta | ⟨duration, -, h⟩
  · unfold timedelta at htimedelta
    split at htimedelta
    · cases htimedelta
      rfl
    · cases htimedelta
      rfl
    · dsimp only at htimedelta
      split at htimedelta
      · cases htimedelta
      · cases htimedelta
        rfl
  · split at h
    · cases h
    · cases h
      rfl

variable (world parsed out) in
/-- The application is built, or what its construction raises is an `Exception`. -/
theorem startApplication_cases :
    (execOn world.answer (startApplication parsed) out = some (.ret (), out) ∧
      ∃ settings, runtimeSettings parsed.runtimeDir parsed.maxSessionSeconds = .ok settings ∧
        world.buildApplication settings = .ok ()) ∨
    ∃ e, execOn world.answer (startApplication parsed) out = some (.raise e, out) ∧
      e.isException = true ∧
      ¬ ∃ settings, runtimeSettings parsed.runtimeDir parsed.maxSessionSeconds = .ok settings ∧
        world.buildApplication settings = .ok () := by
  rw [startApplication, lift, execOn_ofReply]
  cases hsettings : runtimeSettings parsed.runtimeDir parsed.maxSessionSeconds with
  | error e =>
    refine .inr ⟨e, rfl, runtimeSettings_error hsettings, fun h => ?_⟩
    obtain ⟨settings, hok, -⟩ := h
    cases hok
  | ok settings =>
    cases hbuild : world.buildApplication settings with
    | ok u =>
      refine .inl ⟨execOn_perform ?_, settings, rfl, hbuild⟩
      simp [World.answer, hbuild, Behaviour.reply, Except.mapError]
    | error e =>
      refine .inr ⟨e.val, execOn_perform_raise ?_, e.property, fun h => ?_⟩
      · simp [World.answer, hbuild, Behaviour.reply, Except.mapError]
      · obtain ⟨settings', hok, hbuilt⟩ := h
        cases hok
        rw [hbuild] at hbuilt
        cases hbuilt

variable (world out) in
theorem allPresent_cases (runtimeDir : PyStr) (filenames : List PyStr) :
    (∃ present, execOn world.answer (allPresent runtimeDir filenames) out =
        some (.ret present, out) ∧
      (present = true ↔ ∀ filename ∈ filenames, world.isFile ⟨runtimeDir, filename⟩ = some true ∧
        ∃ size, world.size ⟨runtimeDir, filename⟩ = some size ∧ 0 < size)) ∨
    ∃ e, execOn world.answer (allPresent runtimeDir filenames) out = some (.raise e, out) ∧
      e.cls = .osError ∧
      ¬ ∀ filename ∈ filenames, world.isFile ⟨runtimeDir, filename⟩ = some true ∧
        ∃ size, world.size ⟨runtimeDir, filename⟩ = some size ∧ 0 < size := by
  induction filenames with
  | nil => exact .inl ⟨true, rfl, by simp⟩
  | cons filename filenames ih =>
    rw [allPresent]
    cases hisFile : world.isFile ⟨runtimeDir, filename⟩ with
    | none =>
      have hask : execOn world.answer (ask (.isFile ⟨runtimeDir, filename⟩)) out =
          some (.raise unanswered, out) :=
        execOn_perform_raise (by simp [World.answer, hisFile, osReply])
      exact .inr ⟨unanswered, execOn_bind_raise _ hask, rfl, by simp [hisFile]⟩
    | some file =>
      have hask : execOn world.answer (ask (.isFile ⟨runtimeDir, filename⟩)) out =
          some (.ret file, out) := execOn_perform (by simp [World.answer, hisFile, osReply])
      rw [execOn_bind _ hask]
      cases file with
      | false => exact .inl ⟨false, rfl, by simp [hisFile]⟩
      | true =>
        rw [if_pos rfl]
        cases hsize : world.size ⟨runtimeDir, filename⟩ with
        | none =>
          have hask : execOn world.answer (ask (.size ⟨runtimeDir, filename⟩)) out =
              some (.raise unanswered, out) :=
            execOn_perform_raise (by simp [World.answer, hsize, osReply])
          exact .inr ⟨unanswered, execOn_bind_raise _ hask, rfl, by simp [hsize]⟩
        | some size =>
          have hask : execOn world.answer (ask (.size ⟨runtimeDir, filename⟩)) out =
              some (.ret size, out) := execOn_perform (by simp [World.answer, hsize, osReply])
          rw [execOn_bind _ hask]
          split
          · rename_i hpositive
            simpa [hisFile, hsize, hpositive] using ih
          · rename_i hempty
            exact .inl ⟨false, rfl, by simp [hsize, hempty]⟩

variable (world out) in
/-- Looking at a directory whose text is a path answers whether it is provisioned. -/
theorem runtimeIsProvisioned_cases {runtimeDir : PyStr} (hpath : isPathText runtimeDir = true) :
    ∃ provisioned, execOn world.answer (runtimeIsProvisioned runtimeDir) out =
        some (.ret provisioned, out) ∧
      (provisioned = true ↔ Provisioned world runtimeDir) := by
  rw [runtimeIsProvisioned]
  cases hlstat : world.lstat runtimeDir with
  | none =>
    have hask : execOn world.answer (ask (.lstat runtimeDir)) out =
        some (.raise unanswered, out) :=
      execOn_perform_raise (by simp [World.answer, hpath, hlstat, osReply])
    refine ⟨false, ?_, by simp [Provisioned, hlstat]⟩
    rw [execOn_tryExcept_raise _ (execOn_bind_raise _ hask)]
    rfl
  | some mode =>
    have hask : execOn world.answer (ask (.lstat runtimeDir)) out = some (.ret mode, out) :=
      execOn_perform (by simp [World.answer, hpath, hlstat, osReply])
    by_cases hmode : KeyFiles.isDirectory mode = true ∧ KeyFiles.permissions mode = 0o700
    · have hprovisioned : Provisioned world runtimeDir ↔
          ∀ filename ∈ requiredFiles, world.isFile ⟨runtimeDir, filename⟩ = some true ∧
            ∃ size, world.size ⟨runtimeDir, filename⟩ = some size ∧ 0 < size := by
        simp [Provisioned, hlstat, hmode]
      rcases allPresent_cases world out runtimeDir requiredFiles with
        ⟨present, hret, hpresent⟩ | ⟨e, hraise, hcls, habsent⟩
      · refine ⟨present, execOn_tryExcept _ ?_, hpresent.trans hprovisioned.symm⟩
        rw [execOn_bind _ hask, if_pos (by simp [hmode])]
        exact hret
      · refine ⟨false, ?_, by simp [hprovisioned, habsent]⟩
        have hlooked : execOn world.answer (do
            let mode ← ask (.lstat runtimeDir)
            if KeyFiles.isDirectory mode && KeyFiles.permissions mode == 0o700 then
              allPresent runtimeDir requiredFiles
            else return false) out = some (.raise e, out) := by
          rw [execOn_bind _ hask, if_pos (by simp [hmode])]
          exact hraise
        rw [execOn_tryExcept_raise _ hlooked, if_pos hcls]
        rfl
    · refine ⟨false, execOn_tryExcept _ ?_, ?_⟩
      · rw [execOn_bind _ hask, if_neg (by simpa using hmode)]
        rfl
      · simp only [Provisioned, hlstat, Option.some.injEq, exists_eq_left']
        simp only [Bool.false_eq_true, false_iff]
        exact fun h => hmode ⟨h.1, h.2.1⟩

variable (world out) in
theorem runtimeIsProvisioned_raise {runtimeDir : PyStr} (hpath : isPathText runtimeDir = false) :
    execOn world.answer (runtimeIsProvisioned runtimeDir) out =
      some (.raise (notPath runtimeDir), out) := by
  have hask : execOn world.answer (ask (.lstat runtimeDir)) out =
      some (.raise (notPath runtimeDir), out) :=
    execOn_perform_raise (by simp [World.answer, hpath])
  have hclass : (notPath runtimeDir).cls ≠ ExnClass.osError := by
    unfold notPath
    split_ifs <;> simp [raised]
  rw [runtimeIsProvisioned, execOn_tryExcept_raise _ (execOn_bind_raise _ hask), if_neg hclass]
  rfl

/-- `_run_access` ends in an exit code, whatever the collaborators do, exactly when none of
its unguarded statements is reached with what makes it raise. -/
theorem runAccess_exits_iff (world : World) (parsed : AccessArguments) :
    Exits world (runAccess parsed) [] ↔ Unobstructed world parsed := by
  cases hpath : isPathText parsed.runtimeDir with
  | false =>
    have hraise := runtimeIsProvisioned_raise world [] hpath
    refine iff_of_false (not_exits_of_raise (execOn_bind_raise _ hraise)) fun h => ?_
    rw [h.path] at hpath
    cases hpath
  | true =>
    obtain ⟨provisioned, hlooked, hprovisioned⟩ :=
      runtimeIsProvisioned_cases world [] hpath
    rw [runAccess, exits_congr (execOn_bind _ hlooked)]
    cases provisioned with
    | false =>
      have hnot : ¬ Started world parsed := fun h => Bool.false_ne_true (hprovisioned.mpr h.1)
      refine iff_of_true ?_ ⟨hpath, fun h => absurd h hnot, fun h => absurd h hnot⟩
      exact exits_of_ret (execOn_bind _ (execOn_print (encodable_py _))) (by decide)
    | true =>
      rw [if_pos rfl]
      rcases startApplication_cases world parsed [] with
        ⟨hret, hbuilt⟩ | ⟨e, hraise, hexception, hfailed⟩
      · have hstarted : Started world parsed := ⟨hprovisioned.mp rfl, hbuilt⟩
        rw [exits_congr (execOn_stage hret), exits_prompt_iff]
        constructor
        · intro h
          exact ⟨hpath, fun _ => h.1, fun _ => h.2⟩
        · intro h
          exact ⟨h.prompt hstarted, h.target hstarted⟩
      · have hnot : ¬ Started world parsed := fun h => hfailed h.2
        refine iff_of_true ?_ ⟨hpath, fun h => absurd h hnot, fun h => absurd h hnot⟩
        exact exits_of_ret (execOn_stage_handled hraise (if_pos hexception) (encodable_py _))
          (by decide)

end Chain

/-- A provisioned runtime and a user who authenticates. -/
def provisionedWorld : World where
  lstat _ := some 0o040700
  isFile _ := some true
  size _ := some 32
  buildApplication _ := .ok ()
  getpass := .ok (py "pam-password")
  authenticate username _ :=
    if h : blank username = false then .ok ⟨py "pam-user-1", username, by decide, h⟩
    else .error ⟨raised .authenticationFailedError (py "authentication failed"), rfl⟩
  newId := .ok (py "request-1")
  now := .ok (.utc 0 DateTimes.yearOne_lt)
  fileno := .ok 0
  tcgetattr := .ok 0
  setraw := .ok ()
  tcsetattr _ := .ok ()
  handle _ _ := .ok ⟨⟨.deny, py "no_matching_policy"⟩, none⟩

/-- The argument bytes 0xFF for the target. -/
def undecodableTarget : AccessArguments where
  runtimeDir := py "runtime"
  username := py "sukru"
  targetId := [Fin.ofNat _ 0xDCFF]
  maxSessionSeconds := .finite 1800

theorem undecodable_target_escapes :
    execOn provisionedWorld.answer (runAccess undecodableTarget) [] =
      some (.raise notPrinted, []) ∧
    ¬ Exits provisionedWorld (runAccess undecodableTarget) [] := by
  have htimedelta : timedelta undecodableTarget.maxSessionSeconds = .ok 1800000000 := by
    decide +kernel
  have hstarted : execOn provisionedWorld.answer (startApplication undecodableTarget) [] =
      some (.ret (), []) := by
    rw [startApplication, lift, execOn_ofReply, runtimeSettings, htimedelta]
    rfl
  have hlooked : execOn provisionedWorld.answer
      (runtimeIsProvisioned undecodableTarget.runtimeDir) [] = some (.ret true, []) := by
    rfl
  have hraise : execOn provisionedWorld.answer (runAccess undecodableTarget) [] =
      some (.raise notPrinted, []) := by
    rw [runAccess, execOn_bind _ hlooked, if_pos rfl, execOn_stage hstarted]
    rfl
  exact ⟨hraise, not_exits_of_raise hraise⟩

end PamMvp.AccessCommand
