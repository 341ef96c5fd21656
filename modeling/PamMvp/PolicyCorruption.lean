import PamMvp.PolicyStore

/-!
# Corrupted policy rows

A selected row that the repository cannot read makes it raise, so a corrupted effect or id
never turns into an allowance. A corrupted action takes the row out of the selection
before it is read, and with it the denial or the approval requirement that it carried.
-/
namespace PamMvp.PolicyCorruption
open PythonText DomainModel SqliteValues SqliteParameters PolicyEvaluation PolicyStore

/-- A change to one stored row behind the back of the repository. -/
inductive Corruption where
  | action (value : SqlValue) (houtside : ∀ a : AccessAction, value ≠ .text (utf8 a.value))
  | effect (value : SqlValue) (houtside : ∀ e : AccessEffect, value ≠ .text (utf8 e.value))
  | id (text : PyStr) (hblank : blank text = true)

namespace Corruption

def apply : Corruption → PolicyRow → PolicyRow
  | .action value _, row => { row with action := value }
  | .effect value _, row => { row with effect := value }
  | .id text _, row => { row with id := .text (utf8 text) }

def isAction : Corruption → Bool
  | .action _ _ => true
  | _ => false

end Corruption

def Allows (table : List PolicyRow) (request : AccessRequest) : Prop :=
  ∃ decision, evaluate true table request = .ok decision ∧ decision.effect = .allow

/-- The row passes the `WHERE` clause of the query for the request. -/
def Selected (request : AccessRequest) (row : PolicyRow) : Prop :=
  row.userId = .text (utf8 request.userId) ∧ row.targetId = .text (utf8 request.targetId) ∧
    row.action = .text (utf8 request.action.value)

instance (request : AccessRequest) : DecidablePred (Selected request) :=
  fun _ => inferInstanceAs (Decidable (_ ∧ _))

/-- The corruption takes the row of a matching policy out of the selection, and the other
matching policies exist and all allow. -/
structure Uncovers (c : Corruption) (policies : List AccessPolicy) (i : ℕ)
    (request : AccessRequest) : Prop where
  action : c.isAction = true
  corrupted : ∃ policy, policies[i]? = some policy ∧
    IsFor request.userId request.targetId request.action policy
  others : matching (policies.eraseIdx i) request ≠ []
  allowing : ∀ q ∈ matching (policies.eraseIdx i) request, q.effect = .allow

section Reading

theorem fetchRow_ok_iff (row : PolicyRow) (values : List PyValue) :
    fetchRow row = .ok values ↔
      (∀ v ∈ values, v.encodes = true) ∧ row.values = values.map PyValue.stored := by
  rw [← fetch_values_iff, fetchRow]
  cases row.values.mapM SqlValue.fetch <;> simp

/-- The repository reads nothing but the rows of policies that it would store. -/
theorem read_row {row : PolicyRow} {values : List PyValue} {policy : AccessPolicy}
    (hfetch : fetchRow row = .ok values) (hread : deserialize values = .ok policy) :
    Storable policy ∧ row = rowOf policy := by
  obtain ⟨rfl, hid, huser, htarget⟩ := (deserialize_ok_iff _ _).mp hread
  obtain ⟨hencodes, hvalues⟩ := (fetchRow_ok_iff _ _).mp hfetch
  simp only [fetched, List.forall_mem_cons, PyValue.encodes_str] at hencodes
  obtain ⟨hid', huser', htarget', -⟩ := hencodes
  refine ⟨⟨hid, huser, htarget, hid', huser', htarget'⟩, ?_⟩
  cases row
  simpa [PolicyRow.values, fetched, PyValue.stored, rowOf] using hvalues

theorem mapM_ok_mem {ε α β : Type} {f : α → Except ε β} {l : List α} {bs : List β}
    (h : l.mapM f = .ok bs) {a : α} (ha : a ∈ l) : ∃ b ∈ bs, f a = .ok b := by
  induction l generalizing bs with
  | nil => cases ha
  | cons a' l ih =>
    rw [List.mapM_cons, except_bind_ok_iff] at h
    obtain ⟨b, hb, h⟩ := h
    obtain ⟨bs', hbs', h⟩ := (except_bind_ok_iff _ _ _).mp h
    cases h
    rcases List.mem_cons.mp ha with rfl | ha
    · exact ⟨b, List.mem_cons_self .., hb⟩
    · obtain ⟨b', hmem, hb'⟩ := ih hbs' ha
      exact ⟨b', List.mem_cons_of_mem b hmem, hb'⟩

end Reading

section Selecting

variable {table table' : List PolicyRow} {policies : List AccessPolicy} {request : AccessRequest}

theorem findMatching_selected (hu : encodable request.userId = true)
    (ht : encodable request.targetId = true) :
    findMatching true table request.userId request.targetId request.action = (do
      let rows ← (orderBy PolicyRow.id (table.filter (Selected request))).mapM fetchRow
      rows.mapM deserialize) := by
  simp only [findMatching, Bool.not_true, Bool.false_eq_true, if_false, bindParameter_str, hu, ht,
    action_encodable]
  rfl

theorem unencodable_of_not
    (h : ¬ (encodable request.userId = true ∧ encodable request.targetId = true)) :
    encodable request.userId = false ∨ encodable request.targetId = false := by
  by_cases hu : encodable request.userId = true
  · exact .inr (Bool.eq_false_iff.mpr fun ht => h ⟨hu, ht⟩)
  · exact .inl (Bool.eq_false_iff.mpr hu)

/-- Rows that are not selected do not matter. -/
theorem evaluate_congr (h : table.filter (Selected request) = table'.filter (Selected request)) :
    evaluate true table request = evaluate true table' request := by
  by_cases hrequest : encodable request.userId = true ∧ encodable request.targetId = true
  · unfold PolicyStore.evaluate PolicyEvaluation.evaluate
    rw [findMatching_selected hrequest.1 hrequest.2, findMatching_selected hrequest.1 hrequest.2, h]
  · have hbad := unencodable_of_not hrequest
    rw [evaluate_unencodable table hbad, evaluate_unencodable table' hbad]

/-- Every selected row of an evaluation that decides is the row of a policy. -/
theorem readable_of_allows {row : PolicyRow} (h : Allows table request) (hrow : row ∈ table)
    (hselected : Selected request row) : ∃ policy, Storable policy ∧ row = rowOf policy := by
  obtain ⟨decision, hdecision, -⟩ := h
  by_cases hrequest : encodable request.userId = true ∧ encodable request.targetId = true
  · obtain ⟨policies, hfind, -⟩ := (except_bind_ok_iff _ _ _).mp hdecision
    rw [findMatching_selected hrequest.1 hrequest.2] at hfind
    obtain ⟨rows, hfetch, hread⟩ := (except_bind_ok_iff _ _ _).mp hfind
    have hmem : row ∈ orderBy PolicyRow.id (table.filter (Selected request)) :=
      mem_orderBy.mpr (List.mem_filter.mpr ⟨hrow, decide_eq_true hselected⟩)
    obtain ⟨values, hvalues, hfetched⟩ := mapM_ok_mem hfetch hmem
    obtain ⟨policy, -, hpolicy⟩ := mapM_ok_mem hread hvalues
    exact ⟨policy, read_row hfetched hpolicy⟩
  · rw [evaluate_unencodable table (unencodable_of_not hrequest)] at hdecision
    cases hdecision

theorem selected_rowOf_iff {policy : AccessPolicy} (h : Storable policy)
    (hu : encodable request.userId = true) (ht : encodable request.targetId = true) :
    Selected request (rowOf policy) ↔
      IsFor request.userId request.targetId request.action policy :=
  rowOf_selected_iff h hu ht request.action

/-- A request that matches a stored policy has its ids from it. -/
theorem encodable_of_isFor {policy : AccessPolicy} (h : Storable policy)
    (hfor : IsFor request.userId request.targetId request.action policy) :
    encodable request.userId = true ∧ encodable request.targetId = true :=
  ⟨hfor.1 ▸ h.user_encodable, hfor.2.1 ▸ h.target_encodable⟩

theorem allows_rows_iff (h : ∀ p ∈ policies, Storable p) :
    Allows (policies.map rowOf) request ↔
      matching policies request ≠ [] ∧ ∀ p ∈ matching policies request, p.effect = .allow := by
  by_cases hrequest : encodable request.userId = true ∧ encodable request.targetId = true
  · have hevaluate := evaluate_storable h hrequest.1 hrequest.2
    have hperm : (orderBy idColumn (matching policies request)).Perm (matching policies request) :=
      orderBy_perm _
    constructor
    · intro hallows
      obtain ⟨decision, hdecision, heffect⟩ := hallows
      rw [hevaluate] at hdecision
      cases hdecision
      obtain ⟨hne, hall⟩ := (decisionOf_effect_allow_iff _).mp heffect
      exact ⟨fun hnil => hne (List.perm_nil.mp (hnil ▸ hperm)),
        fun p hp => hall p (mem_orderBy.mpr hp)⟩
    · intro hall
      refine ⟨_, hevaluate, (decisionOf_effect_allow_iff _).mpr ⟨fun hnil => ?_, fun p hp => ?_⟩⟩
      · exact hall.1 (List.perm_nil.mp (hnil ▸ hperm).symm)
      · exact hall.2 p (mem_orderBy.mp hp)
  · have hnone : matching policies request = [] :=
      List.filter_eq_nil_iff.mpr fun p hp hfor =>
        hrequest (encodable_of_isFor (h p hp) (of_decide_eq_true hfor))
    constructor
    · intro hallows
      obtain ⟨decision, hdecision, -⟩ := hallows
      rw [evaluate_unencodable _ (unencodable_of_not hrequest)] at hdecision
      cases hdecision
    · intro hall
      exact absurd hnone hall.1

end Selecting

section Corrupting

variable {before after : List AccessPolicy} {policy : AccessPolicy} {request : AccessRequest}

theorem selected_of_isAction {c : Corruption} (hc : c.isAction = true) (row : PolicyRow) :
    ¬ Selected request (c.apply row) := by
  cases c with
  | action value houtside => exact fun h => houtside request.action h.2.2
  | effect value houtside => cases hc
  | id text hblank => cases hc

/-- The other corruptions leave the columns of the `WHERE` clause alone. -/
theorem selected_of_not_isAction {c : Corruption} (hc : ¬ c.isAction = true) (row : PolicyRow) :
    Selected request (c.apply row) ↔ Selected request row := by
  cases c with
  | action value houtside => exact absurd rfl hc
  | effect value houtside => exact Iff.rfl
  | id text hblank => exact Iff.rfl

/-- White space has a UTF-8 encoding. -/
theorem encodable_of_blank {text : PyStr} (h : blank text = true) : encodable text = true := by
  refine (encodable_iff text).mpr fun c hc => ?_
  have hspace := List.all_eq_true.mp h c hc
  simp only [isSpace, isSurrogate, Bool.or_eq_true, Bool.and_eq_true, decide_eq_true_eq,
    beq_iff_eq, Bool.and_eq_false_iff, decide_eq_false_iff_not] at hspace ⊢
  omega

/-- No corrupted row is the row of a policy that the repository would store. -/
theorem corrupted_unreadable (c : Corruption) (row : PolicyRow) (policy : AccessPolicy)
    (h : Storable policy) : c.apply row ≠ rowOf policy := by
  intro heq
  cases c with
  | action value houtside => exact houtside policy.action (congrArg PolicyRow.action heq)
  | effect value houtside => exact houtside policy.effect (congrArg PolicyRow.effect heq)
  | id text hblank =>
    have htext : utf8 text = utf8 policy.id := SqlValue.text.inj (congrArg PolicyRow.id heq)
    have hid := utf8_injective (encodable_of_blank hblank) h.id_encodable htext
    rw [hid, h.id_nonblank] at hblank
    cases hblank

/-- A corrupted row that is not selected leaves the decision to the other rows. -/
theorem allows_unselected {row : PolicyRow} (hrow : ¬ Selected request row) :
    Allows (before.map rowOf ++ row :: after.map rowOf) request ↔
      Allows ((before ++ after).map rowOf) request := by
  have hfilter : (before.map rowOf ++ row :: after.map rowOf).filter (Selected request) =
      ((before ++ after).map rowOf).filter (Selected request) := by
    rw [List.filter_append, List.filter_cons_of_neg (by simpa using hrow), List.map_append,
      List.filter_append]
  unfold Allows
  rw [evaluate_congr hfilter]

/-- What a corruption of the row between `before` and `after` does to an evaluation that
does not allow. -/
theorem corrupted_allows_iff (h : ∀ p ∈ before ++ policy :: after, Storable p) (c : Corruption)
    (hdenied : ¬ Allows ((before ++ policy :: after).map rowOf) request) :
    Allows (before.map rowOf ++ c.apply (rowOf policy) :: after.map rowOf) request ↔
      c.isAction = true ∧ IsFor request.userId request.targetId request.action policy ∧
      matching (before ++ after) request ≠ [] ∧
      ∀ q ∈ matching (before ++ after) request, q.effect = .allow := by
  have hothers : ∀ p ∈ before ++ after, Storable p := by
    intro p hp
    refine h p ?_
    simp only [List.mem_append, List.mem_cons] at hp ⊢
    tauto
  have hpolicy : Storable policy := h policy (by simp)
  by_cases hfor : IsFor request.userId request.targetId request.action policy
  · by_cases hc : c.isAction = true
    · rw [allows_unselected (selected_of_isAction hc _), allows_rows_iff hothers]
      exact ⟨fun hall => ⟨hc, hfor, hall⟩, fun hall => hall.2.2⟩
    · obtain ⟨hu, ht⟩ := encodable_of_isFor hpolicy hfor
      have hselected : Selected request (c.apply (rowOf policy)) :=
        (selected_of_not_isAction hc _).mpr ((selected_rowOf_iff hpolicy hu ht).mpr hfor)
      constructor
      · intro hallows
        obtain ⟨q, hq, heq⟩ := readable_of_allows hallows (by simp) hselected
        exact absurd heq (corrupted_unreadable c _ q hq)
      · intro hall
        exact absurd hall.1 hc
  · have hmatching : matching (before ++ policy :: after) request =
        matching (before ++ after) request := by
      rw [matching, List.filter_append, List.filter_cons_of_neg (by simpa using hfor), matching,
        List.filter_append]
    have hdenied' : ¬ Allows ((before ++ after).map rowOf) request := by
      rw [allows_rows_iff h, hmatching] at hdenied
      rwa [allows_rows_iff hothers]
    constructor
    · intro hallows
      by_cases hselected : Selected request (c.apply (rowOf policy))
      · obtain ⟨q, hq, heq⟩ := readable_of_allows hallows (by simp) hselected
        exact absurd heq (corrupted_unreadable c _ q hq)
      · exact absurd ((allows_unselected hselected).mp hallows) hdenied'
    · intro hall
      exact absurd hall.2.1 hfor

end Corrupting

/-- An evaluation that does not allow still does not after a row is corrupted, unless the
corruption hides the action of a matching row and all other matching rows allow. -/
theorem corrupted_not_allows_iff {policies : List AccessPolicy} {table : List PolicyRow}
    (h : Reached policies table) {request : AccessRequest} (hdenied : ¬ Allows table request)
    {i : ℕ} (hi : i < table.length) (c : Corruption) :
    ¬ Allows (table.modify i c.apply) request ↔ ¬ Uncovers c policies i request := by
  have htable := h.table_eq
  subst htable
  rw [List.length_map] at hi
  have hsplit : policies = policies.take i ++ policies[i] :: policies.drop (i + 1) := by
    rw [← List.drop_eq_getElem_cons hi, List.take_append_drop]
  have hmodify : (policies.map rowOf).modify i c.apply = (policies.take i).map rowOf ++
      c.apply (rowOf policies[i]) :: (policies.drop (i + 1)).map rowOf := by
    rw [List.modify_eq_take_cons_drop (by simpa using hi), List.getElem_map, List.map_take,
      List.map_drop]
  have hstorable := h.storable
  rw [hsplit] at hstorable hdenied
  rw [hmodify, corrupted_allows_iff hstorable c hdenied, ← List.eraseIdx_eq_take_drop_succ]
  refine not_congr ⟨fun hall => ?_, fun hall => ?_⟩
  · obtain ⟨haction, hfor, hne, heffects⟩ := hall
    exact ⟨haction, ⟨_, List.getElem?_eq_getElem hi, hfor⟩, hne, heffects⟩
  · obtain ⟨haction, ⟨policy, hpolicy, hfor⟩, hne, heffects⟩ := hall
    obtain rfl : policies[i] = policy := Option.some.inj ((List.getElem?_eq_getElem hi) ▸ hpolicy)
    exact ⟨haction, hfor, hne, heffects⟩

section Example

theorem malformed_action (a : AccessAction) :
    SqlValue.text (utf8 (py "malformed_action")) ≠ .text (utf8 a.value) := by
  cases a
  decide

theorem unexpected_effect (e : AccessEffect) :
    SqlValue.text (utf8 (py "unexpected")) ≠ .text (utf8 e.value) := by
  cases e <;> decide

theorem example_denied :
    ¬ Allows (examplePolicies.map rowOf) (exampleRequest (py "alice")) := by
  intro h
  have hall := (allows_rows_iff examplePolicies_reached.storable).mp h
  exact absurd hall (by decide)

theorem corrupted_not_allows_example :
    ¬ Allows ((examplePolicies.map rowOf).modify 1 (Corruption.effect _ unexpected_effect).apply)
      (exampleRequest (py "alice")) :=
  (corrupted_not_allows_iff examplePolicies_reached example_denied (by decide) _).mpr
    fun h => nomatch h.action

/-- Alice is denied by one of two rows, and allowed once the action of that row is corrupted. -/
theorem corrupted_action_allows :
    Reached examplePolicies (examplePolicies.map rowOf) ∧
      ¬ Allows (examplePolicies.map rowOf) (exampleRequest (py "alice")) ∧
      Allows ((examplePolicies.map rowOf).modify 1 (Corruption.action _ malformed_action).apply)
        (exampleRequest (py "alice")) :=
  ⟨examplePolicies_reached, example_denied, ⟨.allow, py "p-2"⟩, rfl, rfl⟩

end Example

end PamMvp.PolicyCorruption
