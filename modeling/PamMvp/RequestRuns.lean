import Mathlib.Algebra.Order.BigOperators.Group.List
import PamMvp.EndingPrograms
import PamMvp.ServedAccess

/-!
# Requests have an end

Over a broker that is known by its port `handle` has no loop of its own, and the adapters
have an answer to every call. Whatever came before, a request therefore has a run.
-/
namespace PamMvp.RequestRuns
open InteractionPrograms EndingPrograms SharedPrograms ServedPrograms PythonText DateTimes
  DomainModel SessionLifecycle PamCalls PolicyStore AccessHandling AccessAuditTrail WiredAccess
  EnforcedUniqueness RecordedEvents ServedAccess

section Programs

variable {α : Type}

theorem ending_ask (c : PamCall) : Ending (ask c) := ending_perform (S := pamSignature) c

theorem ending_throw (e : PyExn) : Ending (throw e : Pam α) :=
  .raise (S := pamSignature) e

theorem ending_lift (r : Except PyExn α) : Ending (lift r : Pam α) :=
  ending_ofReply (S := pamSignature) r

theorem ending_exceptException {p : Pam α} {handler : PyExn → Pam α} (hp : Ending p)
    (hh : ∀ e, Ending (handler e)) : Ending (exceptException p handler) := by
  refine Ending.tryExcept hp fun e => ?_
  split_ifs
  · exact hh e
  · exact ending_throw e

theorem currentSession_ending : Ending currentSession := by
  refine ending_memory.bind fun m => ?_
  cases m.session with
  | none => exact ending_throw _
  | some session => exact ending_pure session

theorem transition_ending (mutator : Session → Except PyExn Session) :
    Ending (transition mutator) :=
  currentSession_ending.bind fun _ => (ending_lift _).bind fun _ => ending_modify _

theorem terminalTimestamp_ending : Ending terminalTimestamp :=
  (ending_ask _).bind fun _ => currentSession_ending.bind fun _ => ending_lift _

theorem appendEvent_ending (request : AccessRequest) (eventType : AuditEventType)
    (sessionId : Option PyStr) (result : PyStr) (reasonCode actorUserId : Option PyStr)
    (timestamp : Option DateTime) :
    Ending (appendEvent request eventType sessionId result reasonCode actorUserId timestamp) := by
  refine (ending_ask _).bind fun id => Ending.bind ?_ fun t => ?_
  · cases timestamp with
    | none => exact ending_ask _
    | some t => exact ending_pure t
  · exact (ending_lift _).bind fun event => ending_ask _

theorem deny_ending (request : AccessRequest) (decision : AccessDecision)
    (actorUserId : Option PyStr) : Ending (deny request decision actorUserId) :=
  (appendEvent_ending ..).bind fun _ => ending_pure _

theorem terminate_ending (mutator : DateTime → Session → Except PyExn Session)
    (request : AccessRequest) (eventType : AuditEventType) (result reason : PyStr) :
    Ending (terminate mutator request eventType result reason) :=
  terminalTimestamp_ending.bind fun _ => (transition_ending _).bind fun _ =>
    currentSession_ending.bind fun _ => appendEvent_ending ..

theorem auditPersistenceFailed_ending (e : PyExn) :
    Ending (auditPersistenceFailed e : Pam α) :=
  terminalTimestamp_ending.bind fun _ => (transition_ending _).bind fun _ => ending_throw e

theorem appendOpening_ending (request : AccessRequest) (decision : AccessDecision) :
    Ending (appendOpening request decision) := by
  refine ending_exceptException ?_ auditPersistenceFailed_ending
  exact currentSession_ending.bind fun _ =>
    (appendEvent_ending ..).bind fun _ => appendEvent_ending ..

theorem appendActive_ending (request : AccessRequest) : Ending (appendActive request) := by
  refine ending_exceptException ?_ auditPersistenceFailed_ending
  exact currentSession_ending.bind fun _ => appendEvent_ending ..

theorem endSession_ending (request : AccessRequest) (relayed : Option RelayOutcome) :
    Ending (endSession request relayed) := by
  cases relayed with
  | none => exact terminate_ending ..
  | some outcome =>
    refine ending_memory.bind fun m => ?_
    split_ifs
    · exact terminate_ending ..
    · exact terminate_ending ..

variable (d : ℤ) (hd : 0 < d) (terminal : TerminalIO)

theorem relaySession_ending (request : AccessRequest) (brokered : Unit) :
    Ending ((portService d hd).relaySession request brokered terminal) := by
  refine Ending.tryFinally ?_ ?_
  · refine (transition_ending _).bind fun _ => (appendActive_ending request).bind fun _ => ?_
    refine ending_exceptException ?_ fun _ => ending_pure none
    refine Ending.bind (ending_ask _) fun outcome => ?_
    cases outcome with
    | none => exact ending_throw _
    | some outcome => exact ending_pure _
  · refine ending_exceptException ?_ fun _ => ending_pure ()
    exact (ending_ask .closeSession).bind fun _ => ending_modify _

theorem runSession_ending (request : AccessRequest) (decision : AccessDecision) (target : Target)
    (account : PrivilegedAccount) (credential : BrokerCredential) :
    Ending ((portService d hd).runSession request decision target account credential terminal) := by
  refine (appendOpening_ending request decision).bind fun _ => Ending.bind ?_ fun brokered => ?_
  · refine ending_exceptException ?_ fun _ => ?_
    · exact (ending_ask (.openSession target account credential)).bind fun _ => ending_pure _
    · exact (terminate_ending ..).bind fun _ => ending_pure none
  · cases brokered with
    | none => exact currentSession_ending.bind fun _ => ending_pure _
    | some brokered =>
      refine (ending_modify _).bind fun _ => ?_
      refine (relaySession_ending d hd terminal request brokered).bind fun relayed => ?_
      exact (endSession_ending request relayed).bind fun _ =>
        currentSession_ending.bind fun _ => ending_pure _

theorem startSession_ending (request : AccessRequest) (decision : AccessDecision) (target : Target)
    (account : PrivilegedAccount) (credential : BrokerCredential) :
    Ending ((portService d hd).startSession request decision target account credential terminal) :=
  (ending_ask _).bind fun _ => (ending_ask _).bind fun _ => (ending_lift _).bind fun _ =>
    (ending_modify _).bind fun _ =>
      runSession_ending d hd terminal request decision target account credential

theorem checkAccount_ending (request : AccessRequest) (decision : AccessDecision)
    (target : Target) :
    Ending ((portService d hd).checkAccount request decision target terminal) := by
  refine (ending_ask (.findForTarget target.id)).bind fun found => ?_
  cases found with
  | none => exact deny_ending ..
  | some account =>
    dsimp only
    split_ifs
    · exact deny_ending ..
    · exact deny_ending ..
    · refine (ending_ask (.resolve account.credentialRef)).bind fun credential => ?_
      cases credential with
      | none => exact deny_ending ..
      | some credential =>
        exact startSession_ending d hd terminal request decision target account credential

theorem handle_ending (principal : AuthenticatedPrincipal) (request : AccessRequest) :
    Ending ((portService d hd).handle principal request terminal) := by
  unfold AccessService.handle
  split_ifs
  · exact deny_ending ..
  · refine Ending.bind ((ending_ask (.findMatching _ _ _)).bind fun _ => ending_pure _)
      fun decision => ?_
    split_ifs
    · exact deny_ending ..
    · refine (ending_ask (.getTarget request.targetId)).bind fun found => ?_
      cases found with
      | none => exact deny_ending ..
      | some target =>
        dsimp only
        split_ifs
        · exact deny_ending ..
        · exact checkAccount_ending d hd terminal request decision target

end Programs

section Answers

variable {rt : Runtime} {key : Bytes}

/-- There is always one more id. -/
theorem exists_fresh (used : List PyStr) :
    ∃ id, blank id = false ∧ encodable id = true ∧ id ∉ used := by
  refine ⟨List.replicate ((used.map List.length).sum + 1) 0x61, ?_, ?_, fun hmem => ?_⟩
  · simp [List.replicate_succ, blank, isSpace]
  · rw [encodable_iff]
    intro c hc
    rw [List.eq_of_mem_replicate hc]
    decide
  · have hle := List.single_le_sum (l := used.map List.length) (by simp) _
      (List.mem_map_of_mem hmem)
    simp at hle

/-- The adapters have an answer to every call. -/
theorem answers_exist (w : AccessState) (c : PamCall) : ∃ r w', Answers rt key w c r w' := by
  cases c with
  | newId =>
    obtain ⟨id, hblank, hencodes, hfresh⟩ := exists_fresh w.used
    exact ⟨.ok id, _, id, rfl, hblank, hencodes, hfresh, rfl⟩
  | now => exact ⟨.ok (.utc 0 yearOne_lt), w, ⟨_, rfl, rfl⟩, rfl⟩
  | append event => exact ⟨_, _, _, perform_eq _, rfl⟩
  | findMatching userId targetId action => exact ⟨_, w, rfl, rfl⟩
  | getTarget targetId => exact ⟨_, w, rfl, rfl⟩
  | findForTarget targetId => exact ⟨_, w, rfl, rfl⟩
  | resolve ref => exact ⟨_, w, rfl, rfl⟩
  | _ => exact ⟨.error (raised .otherException []), w, trivial, rfl⟩

/-- Every request has a run. -/
theorem handle_runs (d : ℤ) (hd : 0 < d) (terminal : TerminalIO)
    (principal : AuthenticatedPrincipal) (request : AccessRequest) (m : Memory) (w : AccessState) :
    ∃ tr o m' w', ((portService d hd).handle principal request terminal).Run m tr o m' ∧
      ServedBy (Answers rt key) w tr w' :=
  (handle_ending d hd terminal principal request).served answers_exist m w

end Answers

end PamMvp.RequestRuns
