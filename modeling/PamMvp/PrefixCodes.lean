import Mathlib.Data.List.Infix

/-!
# Self-delimiting codes

A code is self-delimiting when a reader finds the end of a code word without a
separator, so that a stream of code words is read in one way only.
-/
namespace PamMvp.PrefixCodes

variable {α β γ : Type}

def SelfDelimiting (encode : α → List β) : Prop :=
  ∀ a b r s, encode a ++ r = encode b ++ s → a = b ∧ r = s

theorem SelfDelimiting.injective {encode : α → List β} (h : SelfDelimiting encode) :
    Function.Injective encode := by
  intro a b hab
  exact (h a b [] [] (by rw [hab])).1

/-- It is enough that no code word is a prefix of another. -/
theorem SelfDelimiting.of_extension {encode : α → List β}
    (h : ∀ a b, encode a <+: encode b → a = b) : SelfDelimiting encode := by
  intro a b r s heq
  have hab : a = b := by
    have ha : encode a <+: encode b ++ s := ⟨r, heq⟩
    have hb : encode b <+: encode b ++ s := ⟨s, rfl⟩
    rcases List.prefix_or_prefix_of_prefix ha hb with hle | hle
    · exact h a b hle
    · exact (h b a hle).symm
  subst hab
  exact ⟨rfl, List.append_cancel_left heq⟩

theorem SelfDelimiting.append {f : α → List β} {g : γ → List β} (hf : SelfDelimiting f)
    (hg : SelfDelimiting g) : SelfDelimiting fun p : α × γ => f p.1 ++ g p.2 := by
  intro p q r s heq
  rw [List.append_assoc, List.append_assoc] at heq
  obtain ⟨h₁, hrest⟩ := hf p.1 q.1 _ _ heq
  obtain ⟨h₂, hrs⟩ := hg p.2 q.2 r s hrest
  exact ⟨Prod.ext h₁ h₂, hrs⟩

theorem SelfDelimiting.const_append {f : α → List β} (hf : SelfDelimiting f) (pre : List β) :
    SelfDelimiting fun a => pre ++ f a := by
  intro a b r s heq
  rw [List.append_assoc, List.append_assoc] at heq
  exact hf a b r s (List.append_cancel_left heq)

/-- A mark that no code word contains ends the words of an injective code. -/
theorem SelfDelimiting.of_mark {f : α → List β} (hf : Function.Injective f) {mark : β}
    (hmark : ∀ a, mark ∉ f a) : SelfDelimiting fun a => f a ++ [mark] := by
  have hread : ∀ x y r s : List β, mark ∉ x → mark ∉ y → x ++ mark :: r = y ++ mark :: s →
      x = y ∧ r = s := by
    intro x
    induction x with
    | nil =>
      intro y r s _ hy heq
      cases y with
      | nil => exact ⟨rfl, (List.cons.inj heq).2⟩
      | cons b y => exact absurd (List.cons.inj heq).1 (by simp_all)
    | cons a x ih =>
      intro y r s hx hy heq
      cases y with
      | nil => exact absurd (List.cons.inj heq).1.symm (by simp_all)
      | cons b y =>
        obtain ⟨hab, hrest⟩ := List.cons.inj heq
        have h := ih y r s (List.not_mem_of_not_mem_cons hx) (List.not_mem_of_not_mem_cons hy) hrest
        exact ⟨by rw [hab, h.1], h.2⟩
  intro a b r s heq
  simp only [List.append_assoc, List.singleton_append] at heq
  obtain ⟨hab, hrs⟩ := hread _ _ r s (hmark a) (hmark b) heq
  exact ⟨hf hab, hrs⟩

/-- Lists are encoded item by item up to a closing word that starts no item. -/
theorem SelfDelimiting.flatMap {f : α → List β} (hf : SelfDelimiting f) {close : List β}
    (hclose : ∀ a r s, f a ++ r ≠ close ++ s) :
    SelfDelimiting fun l : List α => l.flatMap f ++ close := by
  intro l
  induction l with
  | nil =>
    intro m r s heq
    cases m with
    | nil => exact ⟨rfl, List.append_cancel_left heq⟩
    | cons b m =>
      simp only [List.flatMap_nil, List.nil_append, List.flatMap_cons, List.append_assoc] at heq
      exact absurd heq.symm (hclose b _ _)
  | cons a l ih =>
    intro m r s heq
    cases m with
    | nil =>
      simp only [List.flatMap_nil, List.nil_append, List.flatMap_cons, List.append_assoc] at heq
      exact absurd heq (hclose a _ _)
    | cons b m =>
      simp only [List.flatMap_cons, List.append_assoc] at heq
      obtain ⟨hab, hrest⟩ := hf a b _ _ heq
      obtain ⟨hlm, hrs⟩ := ih m r s (by simpa using hrest)
      exact ⟨by rw [hab, hlm], hrs⟩

end PamMvp.PrefixCodes
