import PamMvp.DomainModel

/-!
# The policy evaluator

The evaluator asks its repository once and decides on the answer alone: a denial
wins over an approval requirement, and both win over an allowance.
-/
namespace PamMvp.PolicyEvaluation
open PythonText DomainModel

/-- The three scans of `PolicyEvaluator.evaluate` over the matching policies. -/
def decisionOf (policies : List AccessPolicy) : AccessDecision :=
  match policies.find? (·.effect = .deny) with
  | some denying => ⟨.deny, denying.id⟩
  | none =>
    if policies.any (·.effect = .requiresApproval) then ⟨.deny, py "approval_not_supported"⟩
    else match policies.find? (·.effect = .allow) with
      | some allowing => ⟨.allow, allowing.id⟩
      | none => ⟨.deny, py "no_matching_policy"⟩

def evaluate {m : Type → Type} [Monad m]
    (findMatching : PyStr → PyStr → AccessAction → m (List AccessPolicy))
    (request : AccessRequest) : m AccessDecision := do
  let policies ← findMatching request.userId request.targetId request.action
  return decisionOf policies

theorem decisionOf_deny {policies : List AccessPolicy}
    (h : ∃ p ∈ policies, p.effect = .deny) :
    ∃ p, policies.find? (·.effect = .deny) = some p ∧ decisionOf policies = ⟨.deny, p.id⟩ := by
  obtain ⟨p, hp, hd⟩ := h
  cases hf : policies.find? (·.effect = .deny) with
  | none => exact absurd hd (by simpa using List.find?_eq_none.mp hf p hp)
  | some q => exact ⟨q, rfl, by simp [decisionOf, hf]⟩

theorem decisionOf_requiresApproval {policies : List AccessPolicy}
    (hd : ∀ p ∈ policies, p.effect ≠ .deny) (h : ∃ p ∈ policies, p.effect = .requiresApproval) :
    decisionOf policies = ⟨.deny, py "approval_not_supported"⟩ := by
  have hf : policies.find? (·.effect = .deny) = none :=
    List.find?_eq_none.mpr fun p hp => by simpa using hd p hp
  have ha : policies.any (·.effect = .requiresApproval) = true := by simpa using h
  simp [decisionOf, hf, ha]

theorem decisionOf_allow {policies : List AccessPolicy} (hne : policies ≠ [])
    (h : ∀ p ∈ policies, p.effect = .allow) :
    ∃ p, policies.head? = some p ∧ decisionOf policies = ⟨.allow, p.id⟩ := by
  cases policies with
  | nil => exact absurd rfl hne
  | cons p policies =>
    have hf : (p :: policies).find? (·.effect = .deny) = none :=
      List.find?_eq_none.mpr fun q hq => by simp [h q hq]
    have ha : (p :: policies).any (·.effect = .requiresApproval) = false :=
      List.any_eq_false.mpr fun q hq => by simp [h q hq]
    refine ⟨p, rfl, ?_⟩
    simp [decisionOf, hf, ha, h p]

theorem decisionOf_nil : decisionOf [] = ⟨.deny, py "no_matching_policy"⟩ := rfl

/-- Access is allowed exactly when some policy matches and every match allows. -/
theorem decisionOf_effect_allow_iff (policies : List AccessPolicy) :
    (decisionOf policies).effect = .allow ↔
      policies ≠ [] ∧ ∀ p ∈ policies, p.effect = .allow := by
  constructor
  · intro h
    by_cases hd : ∃ p ∈ policies, p.effect = .deny
    · obtain ⟨p, -, hp⟩ := decisionOf_deny hd
      simp [hp] at h
    · push Not at hd
      by_cases ha : ∃ p ∈ policies, p.effect = .requiresApproval
      · simp [decisionOf_requiresApproval hd ha] at h
      · push Not at ha
        refine ⟨?_, fun p hp => ?_⟩
        · rintro rfl
          simp [decisionOf_nil] at h
        · cases he : p.effect with
          | allow => rfl
          | deny => exact absurd he (hd p hp)
          | requiresApproval => exact absurd he (ha p hp)
  · rintro ⟨hne, h⟩
    obtain ⟨p, -, hp⟩ := decisionOf_allow hne h
    rw [hp]

end PamMvp.PolicyEvaluation
