import PamMvp.PolicyEvaluation
import PamMvp.SqliteParameters
import Mathlib.Order.Bounds.Defs

/-!
# The policy repository and what the evaluator decides over it

The table `access_policies` is a list of rows in insertion order. `store` and
`find_matching` bind their texts first, so a text without a UTF-8 encoding makes
them raise before the table is touched. The evaluator over the repository then
decides on exactly the stored policies of a triple, by effect and by least id.
-/
namespace PamMvp.PolicyStore
open PythonText DomainModel SqliteValues SqliteParameters PolicyEvaluation

/-- A row of `access_policies`. -/
structure PolicyRow where
  id : SqlValue
  userId : SqlValue
  targetId : SqlValue
  action : SqlValue
  effect : SqlValue
  deriving DecidableEq

def PolicyRow.values (row : PolicyRow) : List SqlValue :=
  [row.id, row.userId, row.targetId, row.action, row.effect]

/-- The tuple that `_serialize` returns. -/
structure PolicyTexts where
  id : PyStr
  userId : PyStr
  targetId : PyStr
  action : PyStr
  effect : PyStr

def serialize (policy : AccessPolicy) : Except PyExn PolicyTexts :=
  if blank policy.id || blank policy.userId || blank policy.targetId then
    .error (raised .policyStorageError (py "policy contains unsupported field values"))
  else .ok ⟨policy.id, policy.userId, policy.targetId, policy.action.value, policy.effect.value⟩

def bindRow (texts : PolicyTexts) : Except PyExn PolicyRow := do
  let id ← bindParameter (.str texts.id)
  let userId ← bindParameter (.str texts.userId)
  let targetId ← bindParameter (.str texts.targetId)
  let action ← bindParameter (.str texts.action)
  let effect ← bindParameter (.str texts.effect)
  return ⟨id, userId, targetId, action, effect⟩

/-- The `INSERT`; the only constraint that a row of texts can break is the primary key. -/
def insert (table : List PolicyRow) (row : PolicyRow) : Except PyExn (List PolicyRow) :=
  if table.any fun r => r.id = row.id then
    .error (raised .duplicatePolicyError (py "policy id already exists"))
  else .ok (table ++ [row])

/-- `store`. A database that is not `available` fails with a `sqlite3.Error`. -/
def store (available : Bool) (table : List PolicyRow) (policy : AccessPolicy) :
    Except PyExn (List PolicyRow) := do
  let texts ← serialize policy
  if !available then .error (raised .policyStorageError (py "policy could not be stored"))
  else insert table (← bindRow texts)

def malformedPolicy : PyExn :=
  raised .malformedPolicyError (py "matching policy contains invalid stored values")

def deserialize : List PyValue → Except PyExn AccessPolicy
  | [.str policyId, .str userId, .str targetId, .str action, .str effect] =>
    match AccessAction.parse action, AccessEffect.parse effect with
    | some action, some effect =>
      (AccessPolicy.postInit ⟨policyId, userId, targetId, action, effect⟩).mapError
        fun _ => malformedPolicy
    | _, _ => .error malformedPolicy
  | _ => .error malformedPolicy

def couldNotBeLoaded : PyExn :=
  raised .policyStorageError (py "policies could not be loaded")

/-- `fetchall`; a text that is no UTF-8 is an `OperationalError`. -/
def fetchRow (row : PolicyRow) : Except PyExn (List PyValue) :=
  match row.values.mapM SqlValue.fetch with
  | some values => .ok values
  | none => .error couldNotBeLoaded

def findMatching (available : Bool) (table : List PolicyRow) (userId targetId : PyStr)
    (action : AccessAction) : Except PyExn (List AccessPolicy) := do
  if !available then .error couldNotBeLoaded
  else
    let userId ← bindParameter (.str userId)
    let targetId ← bindParameter (.str targetId)
    let action ← bindParameter (.str action.value)
    let selected := table.filter fun row =>
      row.userId = userId ∧ row.targetId = targetId ∧ row.action = action
    let rows ← (orderBy PolicyRow.id selected).mapM fetchRow
    rows.mapM deserialize

/-- The evaluator over the repository. -/
def evaluate (available : Bool) (table : List PolicyRow) (request : AccessRequest) :
    Except PyExn AccessDecision :=
  PolicyEvaluation.evaluate (findMatching available table) request

/-- The policies stored so far, in order, and the table that holds them. A store
that raises leaves both as they are. -/
inductive Reached : List AccessPolicy → List PolicyRow → Prop where
  | empty : Reached [] []
  | store {policies : List AccessPolicy} {table table' : List PolicyRow} (available : Bool)
      (policy : AccessPolicy) (h : Reached policies table)
      (hstore : store available table policy = .ok table') : Reached (policies ++ [policy]) table'

/-- The row of a policy. -/
def rowOf (policy : AccessPolicy) : PolicyRow :=
  ⟨.text (utf8 policy.id), .text (utf8 policy.userId), .text (utf8 policy.targetId),
    .text (utf8 policy.action.value), .text (utf8 policy.effect.value)⟩

/-- A policy that the repository accepts. -/
structure Storable (policy : AccessPolicy) : Prop where
  id_nonblank : blank policy.id = false
  user_nonblank : blank policy.userId = false
  target_nonblank : blank policy.targetId = false
  id_encodable : encodable policy.id = true
  user_encodable : encodable policy.userId = true
  target_encodable : encodable policy.targetId = true

theorem action_encodable (action : AccessAction) : encodable action.value = true := by
  cases action
  decide

theorem effect_encodable (effect : AccessEffect) : encodable effect.value = true := by
  cases effect <;> decide

theorem serialize_ok_iff (policy : AccessPolicy) (texts : PolicyTexts) :
    serialize policy = .ok texts ↔ blank policy.id = false ∧ blank policy.userId = false ∧
      blank policy.targetId = false ∧ texts = ⟨policy.id, policy.userId, policy.targetId,
        policy.action.value, policy.effect.value⟩ := by
  unfold serialize
  cases blank policy.id <;> cases blank policy.userId <;> cases blank policy.targetId <;>
    simp [eq_comm]

theorem bindRow_ok_iff (texts : PolicyTexts) (row : PolicyRow) :
    bindRow texts = .ok row ↔
      (encodable texts.id = true ∧ encodable texts.userId = true ∧
        encodable texts.targetId = true ∧ encodable texts.action = true ∧
        encodable texts.effect = true) ∧
      row = ⟨.text (utf8 texts.id), .text (utf8 texts.userId), .text (utf8 texts.targetId),
        .text (utf8 texts.action), .text (utf8 texts.effect)⟩ := by
  simp only [bindRow, except_bind_ok_iff, bindParameter_str_ok_iff, pure, Except.pure,
    Except.ok.injEq]
  constructor
  · intro h
    obtain ⟨_, ⟨hid, rfl⟩, _, ⟨hu, rfl⟩, _, ⟨ht, rfl⟩, _, ⟨ha, rfl⟩, _, ⟨he, rfl⟩, rfl⟩ := h
    exact ⟨⟨hid, hu, ht, ha, he⟩, rfl⟩
  · intro h
    obtain ⟨⟨hid, hu, ht, ha, he⟩, rfl⟩ := h
    exact ⟨_, ⟨hid, rfl⟩, _, ⟨hu, rfl⟩, _, ⟨ht, rfl⟩, _, ⟨ha, rfl⟩, _, ⟨he, rfl⟩, rfl⟩

theorem insert_ok_iff (table table' : List PolicyRow) (row : PolicyRow) :
    insert table row = .ok table' ↔ (∀ r ∈ table, r.id ≠ row.id) ∧ table' = table ++ [row] := by
  unfold insert
  by_cases h : ∃ r ∈ table, r.id = row.id
  · have hany : (table.any fun r => r.id = row.id) = true := by simpa using h
    obtain ⟨r, hr, hid⟩ := h
    rw [if_pos hany]
    exact ⟨fun he => (nomatch he), fun he => absurd hid (he.1 r hr)⟩
  · have hany : (table.any fun r => r.id = row.id) = false := by simpa using h
    push Not at h
    rw [if_neg (by simp [hany]), Except.ok.injEq, eq_comm]
    exact ⟨fun he => ⟨h, he⟩, And.right⟩

theorem store_ok_iff {available : Bool} {table table' : List PolicyRow} {policy : AccessPolicy} :
    store available table policy = .ok table' ↔ available = true ∧ Storable policy ∧
      (∀ row ∈ table, row.id ≠ .text (utf8 policy.id)) ∧ table' = table ++ [rowOf policy] := by
  simp only [store, except_bind_ok_iff, serialize_ok_iff]
  cases available with
  | false => simp
  | true =>
    simp only [Bool.not_true, Bool.false_eq_true, if_false, except_bind_ok_iff, bindRow_ok_iff,
      insert_ok_iff]
    constructor
    · intro h
      obtain ⟨_, ⟨hid, hu, ht, rfl⟩, _, ⟨⟨hide, hue, hte, -, -⟩, rfl⟩, hfresh, rfl⟩ := h
      exact ⟨trivial, ⟨hid, hu, ht, hide, hue, hte⟩, hfresh, rfl⟩
    · intro h
      obtain ⟨-, hs, hfresh, rfl⟩ := h
      exact ⟨_, ⟨hs.id_nonblank, hs.user_nonblank, hs.target_nonblank, rfl⟩, _,
        ⟨⟨hs.id_encodable, hs.user_encodable, hs.target_encodable, action_encodable policy.action,
          effect_encodable policy.effect⟩, rfl⟩, hfresh, rfl⟩

section Reached

variable {policies policies' : List AccessPolicy} {table table' : List PolicyRow}

theorem Reached.storable (h : Reached policies table) : ∀ p ∈ policies, Storable p := by
  induction h with
  | empty => simp
  | store _ _ _ hstore ih =>
    obtain ⟨-, hs, -, -⟩ := store_ok_iff.mp hstore
    intro p hp
    rcases List.mem_append.mp hp with hp | hp
    · exact ih p hp
    · rw [List.mem_singleton.mp hp]
      exact hs

theorem Reached.table_eq (h : Reached policies table) : table = policies.map rowOf := by
  induction h with
  | empty => rfl
  | store _ _ _ hstore ih =>
    obtain ⟨-, -, -, rfl⟩ := store_ok_iff.mp hstore
    simp [ih]

/-- No two stored policies share an id. -/
theorem Reached.id_injective (h : Reached policies table) :
    ∀ p ∈ policies, ∀ q ∈ policies, p.id = q.id → p = q := by
  induction h with
  | empty => simp
  | @store policies table _ _ policy h hstore ih =>
    obtain ⟨-, -, hfresh, -⟩ := store_ok_iff.mp hstore
    rw [h.table_eq] at hfresh
    have hnew : ∀ p ∈ policies, p.id ≠ policy.id := fun p hp hid =>
      hfresh (rowOf p) (List.mem_map_of_mem hp) (by rw [rowOf, hid])
    intro p hp q hq hid
    rcases List.mem_append.mp hp with hp | hp <;> rcases List.mem_append.mp hq with hq | hq
    · exact ih p hp q hq hid
    · rw [List.mem_singleton.mp hq] at hid
      exact absurd hid (hnew p hp)
    · rw [List.mem_singleton.mp hp] at hid
      exact absurd hid.symm (hnew q hq)
    · rw [List.mem_singleton.mp hp, List.mem_singleton.mp hq]

end Reached

/-- Whether a policy is for the triple of a query. -/
def IsFor (userId targetId : PyStr) (action : AccessAction) (policy : AccessPolicy) : Prop :=
  policy.userId = userId ∧ policy.targetId = targetId ∧ policy.action = action

instance (userId targetId : PyStr) (action : AccessAction) :
    DecidablePred (IsFor userId targetId action) := fun _ => inferInstanceAs (Decidable (_ ∧ _))

/-- The stored policies for a request. -/
def matching (policies : List AccessPolicy) (request : AccessRequest) : List AccessPolicy :=
  policies.filter (IsFor request.userId request.targetId request.action)

def idColumn (policy : AccessPolicy) : SqlValue := .text (utf8 policy.id)

/-- What `fetchall` returns for the row of a policy. -/
def fetched (policy : AccessPolicy) : List PyValue :=
  [.str policy.id, .str policy.userId, .str policy.targetId, .str policy.action.value,
    .str policy.effect.value]

theorem fetchRow_rowOf {policy : AccessPolicy} (h : Storable policy) :
    fetchRow (rowOf policy) = .ok (fetched policy) := by
  have hid := decodeUtf8_utf8 _ h.id_encodable
  have hu := decodeUtf8_utf8 _ h.user_encodable
  have ht := decodeUtf8_utf8 _ h.target_encodable
  have ha := decodeUtf8_utf8 _ (action_encodable policy.action)
  have he := decodeUtf8_utf8 _ (effect_encodable policy.effect)
  simp [fetchRow, PolicyRow.values, rowOf, fetched, SqlValue.fetch, hid, hu, ht, ha, he]

theorem parse_action_iff (text : PyStr) (action : AccessAction) :
    AccessAction.parse text = some action ↔ text = action.value := by
  cases action
  simp [AccessAction.parse]

theorem parse_effect_iff (text : PyStr) (effect : AccessEffect) :
    AccessEffect.parse text = some effect ↔ text = effect.value := by
  constructor
  · intro h
    unfold AccessEffect.parse at h
    split_ifs at h with h₁ h₂ h₃
    · cases h
      exact h₁
    · cases h
      exact h₂
    · cases h
      exact h₃
  · intro h
    rw [h, AccessEffect.parse_value]

/-- A row is read as a policy exactly if it is what this policy is stored as. -/
theorem deserialize_ok_iff (values : List PyValue) (policy : AccessPolicy) :
    deserialize values = .ok policy ↔ values = fetched policy ∧ blank policy.id = false ∧
      blank policy.userId = false ∧ blank policy.targetId = false := by
  constructor
  · intro h
    unfold deserialize at h
    split at h
    · split at h
      · rename_i action effect haction heffect
        simp only [mapError_ok_iff, AccessPolicy.postInit, except_bind_ok_iff,
          requireNonblank_ok_iff, exists_const] at h
        obtain ⟨hid, huser, htarget, h⟩ := h
        cases h
        rw [(parse_action_iff _ _).mp haction, (parse_effect_iff _ _).mp heffect]
        exact ⟨rfl, hid, huser, htarget⟩
      · cases h
    · cases h
  · intro h
    obtain ⟨rfl, hid, huser, htarget⟩ := h
    simp only [deserialize, fetched, AccessAction.parse_value, AccessEffect.parse_value,
      AccessPolicy.postInit, requireNonblank, hid, huser, htarget]
    rfl

theorem deserialize_fetched {policy : AccessPolicy} (h : Storable policy) :
    deserialize (fetched policy) = .ok policy :=
  (deserialize_ok_iff _ _).mpr ⟨rfl, h.id_nonblank, h.user_nonblank, h.target_nonblank⟩

theorem mapM_ok {ε α β : Type} {f : α → Except ε β} {g : α → β} {l : List α}
    (h : ∀ a ∈ l, f a = .ok (g a)) : l.mapM f = .ok (l.map g) := by
  induction l with
  | nil => rfl
  | cons a l ih =>
    have hl := ih fun b hb => h b (List.mem_cons_of_mem a hb)
    rw [List.mapM_cons, h a (List.mem_cons_self ..), hl]
    rfl

/-- The row selects a policy exactly when the policy is for the triple. -/
theorem rowOf_selected_iff {policy : AccessPolicy} (h : Storable policy) {userId targetId : PyStr}
    (hu : encodable userId = true) (ht : encodable targetId = true) (action : AccessAction) :
    ((rowOf policy).userId = .text (utf8 userId) ∧ (rowOf policy).targetId = .text (utf8 targetId) ∧
      (rowOf policy).action = .text (utf8 action.value)) ↔ IsFor userId targetId action policy := by
  have haction : policy.action = action := by
    cases policy.action
    cases action
    rfl
  simp only [rowOf, SqlValue.text.injEq, IsFor, haction, and_true]
  constructor
  · intro he
    exact ⟨utf8_injective h.user_encodable hu he.1, utf8_injective h.target_encodable ht he.2⟩
  · intro he
    rw [he.1, he.2]
    exact ⟨rfl, rfl⟩

/-- The rows of storable policies are read back as the policies. -/
theorem load_rows {policies : List AccessPolicy} (h : ∀ p ∈ policies, Storable p) :
    (policies.map rowOf).mapM fetchRow = .ok (policies.map fetched) ∧
      (policies.map fetched).mapM deserialize = .ok policies := by
  constructor
  · rw [List.mapM_map]
    exact mapM_ok fun p hp => fetchRow_rowOf (h p hp)
  · rw [List.mapM_map]
    have hload := mapM_ok (f := deserialize ∘ fetched) (g := id)
      fun p hp => deserialize_fetched (h p hp)
    rw [hload, List.map_id]

theorem findMatching_storable {policies : List AccessPolicy} (h : ∀ p ∈ policies, Storable p)
    {userId targetId : PyStr} (hu : encodable userId = true) (ht : encodable targetId = true)
    (action : AccessAction) : findMatching true (policies.map rowOf) userId targetId action =
      .ok (orderBy idColumn (policies.filter (IsFor userId targetId action))) := by
  have hselected : (policies.map rowOf).filter (fun row => row.userId = .text (utf8 userId) ∧
      row.targetId = .text (utf8 targetId) ∧ row.action = .text (utf8 action.value)) =
      (policies.filter (IsFor userId targetId action)).map rowOf := by
    rw [List.filter_map]
    refine congrArg _ (List.filter_congr fun p hp => ?_)
    exact decide_eq_decide.mpr (rowOf_selected_iff (h p hp) hu ht action)
  have hsorted : orderBy PolicyRow.id ((policies.filter (IsFor userId targetId action)).map rowOf) =
      (orderBy idColumn (policies.filter (IsFor userId targetId action))).map rowOf :=
    (List.map_insertionSort _ _ rowOf _ fun _ _ _ _ => Iff.rfl).symm
  have hstorable : ∀ p ∈ orderBy idColumn (policies.filter (IsFor userId targetId action)),
      Storable p := fun p hp => h p (List.mem_of_mem_filter (mem_orderBy.mp hp))
  have hload := load_rows hstorable
  simp only [findMatching, Bool.not_true, Bool.false_eq_true, if_false, except_bind_ok_iff,
    bindParameter_str_ok_iff]
  refine ⟨_, ⟨hu, rfl⟩, _, ⟨ht, rfl⟩, _, ⟨action_encodable action, rfl⟩, _, ?_, hload.2⟩
  rw [hselected, hsorted]
  exact hload.1

theorem findMatching_reached {policies : List AccessPolicy} {table : List PolicyRow}
    (h : Reached policies table) {userId targetId : PyStr} (hu : encodable userId = true)
    (ht : encodable targetId = true) (action : AccessAction) :
    findMatching true table userId targetId action =
      .ok (orderBy idColumn (policies.filter (IsFor userId targetId action))) := by
  rw [h.table_eq]
  exact findMatching_storable h.storable hu ht action

/-- A request that SQLite cannot be asked about gets no decision. -/
theorem evaluate_unencodable (table : List PolicyRow) {request : AccessRequest}
    (h : encodable request.userId = false ∨ encodable request.targetId = false) :
    evaluate true table request = .error (bindExn .unicodeEncode) := by
  unfold evaluate PolicyEvaluation.evaluate findMatching
  cases hu : encodable request.userId with
  | false =>
    simp only [Bool.not_true, Bool.false_eq_true, if_false, bindParameter_str, hu]
    rfl
  | true =>
    have ht : encodable request.targetId = false := h.resolve_left (by simp [hu])
    simp only [Bool.not_true, Bool.false_eq_true, if_false, bindParameter_str, hu, ht]
    rfl

theorem evaluate_storable {policies : List AccessPolicy} (h : ∀ p ∈ policies, Storable p)
    {request : AccessRequest} (hu : encodable request.userId = true)
    (ht : encodable request.targetId = true) :
    evaluate true (policies.map rowOf) request =
      .ok (decisionOf (orderBy idColumn (matching policies request))) := by
  unfold evaluate PolicyEvaluation.evaluate
  rw [findMatching_storable h hu ht]
  rfl

theorem evaluate_reached {policies : List AccessPolicy} {table : List PolicyRow}
    (h : Reached policies table) {request : AccessRequest} (hu : encodable request.userId = true)
    (ht : encodable request.targetId = true) :
    evaluate true table request =
      .ok (decisionOf (orderBy idColumn (matching policies request))) := by
  rw [h.table_eq]
  exact evaluate_storable h.storable hu ht

/-- The decision that a set of matching policies calls for. -/
structure Decides (policies : List AccessPolicy) (decision : AccessDecision) : Prop where
  allow_or_deny : decision.effect = .allow ∨ decision.effect = .deny
  allow_iff : decision.effect = .allow ↔ policies ≠ [] ∧ ∀ p ∈ policies, p.effect = .allow
  denying : (∃ p ∈ policies, p.effect = .deny) →
    IsLeast {id | ∃ p ∈ policies, p.effect = .deny ∧ p.id = id} decision.reason
  approval : (∀ p ∈ policies, p.effect ≠ .deny) →
    (∃ p ∈ policies, p.effect = .requiresApproval) →
      decision.reason = py "approval_not_supported"
  allowing : (∀ p ∈ policies, p.effect ≠ .deny) →
    (∀ p ∈ policies, p.effect ≠ .requiresApproval) → (∃ p ∈ policies, p.effect = .allow) →
      IsLeast {id | ∃ p ∈ policies, p.effect = .allow ∧ p.id = id} decision.reason
  unmatched : policies = [] → decision.reason = py "no_matching_policy"

/-- The first match in the order of ids has the least id. -/
theorem find?_isLeast {policies : List AccessPolicy} {effect : AccessEffect} {p : AccessPolicy}
    (hsorted : policies.Pairwise fun p q => idColumn p ≤ idColumn q)
    (h : policies.find? (·.effect = effect) = some p) :
    IsLeast {id | ∃ q ∈ policies, q.effect = effect ∧ q.id = id} p.id := by
  obtain ⟨hp, before, after, rfl, hbefore⟩ := List.find?_eq_some_iff_append.mp h
  refine ⟨⟨p, by simp, by simpa using hp, rfl⟩, ?_⟩
  intro id hid
  obtain ⟨q, hq, heffect, rfl⟩ := hid
  rcases List.mem_append.mp hq with hq | hq
  · exact absurd heffect (by simpa using hbefore q hq)
  · rcases List.mem_cons.mp hq with rfl | hq
    · exact le_rfl
    · have hle := (List.pairwise_cons.mp (List.pairwise_append.mp hsorted).2.1).1 q hq
      exact (text_le_text p.id q.id).mp hle

theorem decisionOf_decides {policies : List AccessPolicy}
    (hsorted : policies.Pairwise fun p q => idColumn p ≤ idColumn q) :
    Decides policies (decisionOf policies) where
  allow_or_deny := by
    unfold decisionOf
    split
    · exact .inr rfl
    · split
      · exact .inr rfl
      · split
        · exact .inl rfl
        · exact .inr rfl
  allow_iff := decisionOf_effect_allow_iff policies
  denying h := by
    obtain ⟨p, hp, hd⟩ := decisionOf_deny h
    rw [hd]
    exact find?_isLeast hsorted hp
  approval hd ha := by rw [decisionOf_requiresApproval hd ha]
  allowing hd ha h := by
    have hall : ∀ p ∈ policies, p.effect = .allow := by
      intro p hp
      cases he : p.effect with
      | allow => rfl
      | deny => exact absurd he (hd p hp)
      | requiresApproval => exact absurd he (ha p hp)
    obtain ⟨q, hq, -⟩ := h
    obtain ⟨p, hp, hdecision⟩ := decisionOf_allow (List.ne_nil_of_mem hq) hall
    obtain ⟨rest, rfl⟩ : ∃ rest, policies = p :: rest := List.head?_eq_some_iff.mp hp
    rw [hdecision]
    refine find?_isLeast hsorted ?_
    rw [List.find?_cons_of_pos (by simpa using hall p (List.mem_cons_self ..))]
  unmatched h := by rw [h, decisionOf_nil]

theorem Decides.perm {policies policies' : List AccessPolicy} {decision : AccessDecision}
    (hperm : policies.Perm policies') (h : Decides policies decision) :
    Decides policies' decision := by
  have hmem : ∀ p, p ∈ policies ↔ p ∈ policies' := fun p => hperm.mem_iff
  have hnil : policies = [] ↔ policies' = [] := by
    rw [← List.length_eq_zero_iff, hperm.length_eq, List.length_eq_zero_iff]
  obtain ⟨heffect, hallow, hdeny, happroval, hallowing, hnone⟩ := h
  simp only [hmem, ne_eq, hnil] at heffect hallow hdeny happroval hallowing hnone
  exact ⟨heffect, hallow, hdeny, happroval, hallowing, hnone⟩

/-- The order in which the policies were stored does not show. -/
theorem orderBy_matching_perm {policies policies' : List AccessPolicy} {table : List PolicyRow}
    (h : Reached policies table) (hperm : policies.Perm policies') (request : AccessRequest) :
    orderBy idColumn (matching policies request) =
      orderBy idColumn (matching policies' request) := by
  refine orderBy_eq_of_perm (hperm.filter _) fun p hp q hq hpq hqp => ?_
  have hid : p.id = q.id :=
    le_antisymm ((text_le_text p.id q.id).mp hpq) ((text_le_text q.id p.id).mp hqp)
  exact h.id_injective p (List.mem_of_mem_filter hp) q (List.mem_of_mem_filter hq) hid

/-- Over every reached table the evaluator decides exactly by the stored policies
of the request. The decision is the same in every insertion order and after
storing a policy for another triple, and a policy that does not allow makes it a
denial. A request whose ids have no UTF-8 encoding gets no decision at all. -/
theorem evaluate_exact {policies : List AccessPolicy} {table : List PolicyRow}
    (h : Reached policies table) (request : AccessRequest) :
    (encodable request.userId = true ∧ encodable request.targetId = true →
      ∃ decision, evaluate true table request = .ok decision ∧
        Decides (matching policies request) decision ∧
        (∀ policies' table', Reached policies' table' → policies.Perm policies' →
          evaluate true table' request = .ok decision) ∧
        (∀ available policy table', store available table policy = .ok table' →
          (¬ IsFor request.userId request.targetId request.action policy →
            evaluate true table' request = .ok decision) ∧
          (IsFor request.userId request.targetId request.action policy →
            policy.effect ≠ .allow → ∃ decision', evaluate true table' request = .ok decision' ∧
              decision'.effect = .deny))) ∧
    (encodable request.userId = false ∨ encodable request.targetId = false →
      evaluate true table request = .error (bindExn .unicodeEncode)) := by
  refine ⟨fun hrequest => ?_, evaluate_unencodable table⟩
  obtain ⟨hu, ht⟩ := hrequest
  refine ⟨_, evaluate_reached h hu ht,
    (decisionOf_decides (orderBy_pairwise _)).perm (orderBy_perm _), ?_, ?_⟩
  · intro policies' table' h' hperm
    rw [evaluate_reached h' hu ht, orderBy_matching_perm h hperm]
  · intro available policy table' hstore
    have h' : Reached (policies ++ [policy]) table' := h.store available policy hstore
    constructor
    · intro hother
      rw [evaluate_reached h' hu ht, matching, List.filter_append,
        List.filter_singleton, decide_eq_false hother]
      simp [matching]
    · intro hfor heffect
      have hmem : policy ∈ orderBy idColumn (matching (policies ++ [policy]) request) :=
        mem_orderBy.mpr (List.mem_filter.mpr ⟨by simp, by simpa using hfor⟩)
      have hsorted : (orderBy idColumn (matching (policies ++ [policy]) request)).Pairwise
          fun p q => idColumn p ≤ idColumn q := orderBy_pairwise _
      have hdecides := decisionOf_decides hsorted
      refine ⟨_, evaluate_reached h' hu ht, hdecides.allow_or_deny.resolve_left fun hallow => ?_⟩
      exact heffect ((hdecides.allow_iff.mp hallow).2 policy hmem)

section Example

def exampleRequest (userId : PyStr) : AccessRequest :=
  ⟨py "r-1", userId, py "db", .openPrivilegedSession,
    .utc 0 DateTimes.yearOne_lt⟩

/-- An allowance with a larger id, a denial, and an allowance of another user. -/
def examplePolicies : List AccessPolicy :=
  [⟨py "p-2", py "alice", py "db", .openPrivilegedSession, .allow⟩,
    ⟨py "p-1", py "alice", py "db", .openPrivilegedSession, .deny⟩,
    ⟨py "p-0", py "bob", py "db", .openPrivilegedSession, .allow⟩]

theorem examplePolicies_reached : Reached examplePolicies (examplePolicies.map rowOf) :=
  .store true _ (.store true _ (.store true _ .empty rfl) rfl) rfl

theorem evaluate_exact_example :
    ∃ decision, evaluate true (examplePolicies.map rowOf) (exampleRequest (py "alice")) =
        .ok decision ∧
      Decides (matching examplePolicies (exampleRequest (py "alice"))) decision := by
  obtain ⟨decision, hevaluate, hdecides, -⟩ :=
    (evaluate_exact examplePolicies_reached (exampleRequest (py "alice"))).1 (by decide)
  exact ⟨decision, hevaluate, hdecides⟩

/-- A user id with a lone surrogate matches no policy, but there is no decision. -/
theorem evaluate_surrogate_user :
    Reached [] [] ∧ matching [] (exampleRequest [0xD800]) = [] ∧
      ¬ ∃ decision, evaluate true [] (exampleRequest [0xD800]) = .ok decision ∧
        decision.reason = py "no_matching_policy" :=
  ⟨.empty, rfl, fun h => nomatch h⟩

end Example

end PamMvp.PolicyStore
