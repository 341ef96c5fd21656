import Mathlib.Data.Int.Cast.Defs
import Mathlib.Data.List.Infix
import Mathlib.Tactic.Ring

/-!
# Numbered hash chains

Every record of a chain carries its number, the digest of the record before it and
a digest of its own. Where digests tell records apart, the last digest of a chain
determines the chain. An archive is a set of chains that grew record by record,
some of them from shortened ones; a chain made of archived records is itself in
the archive.
-/
namespace PamMvp.HashChains

variable {ρ δ : Type}

structure Chaining (ρ δ : Type) where
  number : ρ → ℤ
  previous : ρ → δ
  digest : ρ → δ

/-- The records are numbered from `n`, and the first one links to the digest `d`. -/
def Chained (C : Chaining ρ δ) : ℤ → δ → List ρ → Prop
  | _, _, [] => True
  | n, d, r :: rest => C.number r = n ∧ C.previous r = d ∧ Chained C (n + 1) (C.digest r) rest

/-- The digest that the next record links to. -/
def headDigest (C : Chaining ρ δ) (d : δ) (records : List ρ) : δ :=
  (records.getLast?.map C.digest).getD d

variable {C : Chaining ρ δ} {n : ℤ} {d : δ}

@[simp] theorem headDigest_nil : headDigest C d [] = d := rfl

theorem headDigest_cons (r : ρ) (rest : List ρ) :
    headDigest C d (r :: rest) = headDigest C (C.digest r) rest := by
  cases rest with
  | nil => rfl
  | cons x rest => simp [headDigest, List.getLast?_cons]

@[simp] theorem headDigest_concat (records : List ρ) (r : ρ) :
    headDigest C d (records ++ [r]) = C.digest r := by
  simp [headDigest]

theorem chained_append (l m : List ρ) :
    Chained C n d (l ++ m) ↔
      Chained C n d l ∧ Chained C (n + l.length) (headDigest C d l) m := by
  induction l generalizing n d with
  | nil => simp [Chained]
  | cons r l ih =>
    have hlen : n + ((r :: l).length : ℤ) = n + 1 + l.length := by
      simp only [List.length_cons, Nat.cast_add, Nat.cast_one]
      ring
    rw [List.cons_append, Chained, Chained, ih, headDigest_cons, hlen, and_assoc, and_assoc]

theorem chained_concat (l : List ρ) (r : ρ) :
    Chained C n d (l ++ [r]) ↔
      Chained C n d l ∧ C.number r = n + l.length ∧ C.previous r = headDigest C d l := by
  rw [chained_append]
  simp [Chained]

theorem Chained.numbers {l : List ρ} (h : Chained C n d l) :
    l.map C.number = (List.range l.length).map fun i : ℕ => n + i := by
  induction l using List.reverseRecOn with
  | nil => rfl
  | append_singleton l r ih =>
    obtain ⟨hl, hnumber, -⟩ := (chained_concat l r).mp h
    rw [List.map_append, ih hl, List.length_append, List.length_singleton, List.range_succ,
      List.map_append, List.map_singleton, List.map_singleton, hnumber]

/-- Two chains that end in the same digest are the same chain, or two different
records of theirs have the same digest. -/
theorem Chained.eq_or_collision {l m : List ρ} (hl : Chained C n d l) (hm : Chained C n d m)
    (hlne : l ≠ []) (hmne : m ≠ []) (hdigest : headDigest C d l = headDigest C d m) :
    l = m ∨ ∃ a ∈ l, ∃ b ∈ m, a ≠ b ∧ C.digest a = C.digest b := by
  induction l using List.reverseRecOn generalizing m with
  | nil => exact absurd rfl hlne
  | append_singleton l a ih =>
    obtain ⟨m, b, rfl⟩ : ∃ m' b, m = m' ++ [b] := by
      rcases List.eq_nil_or_concat m with rfl | ⟨m', b, rfl⟩
      · exact absurd rfl hmne
      · exact ⟨m', b, by simp⟩
    rw [headDigest_concat, headDigest_concat] at hdigest
    by_cases hab : a = b
    · subst hab
      obtain ⟨hl, hnumber, hprevious⟩ := (chained_concat l a).mp hl
      obtain ⟨hm, hnumber', hprevious'⟩ := (chained_concat m a).mp hm
      -- the number of the shared record tells the lengths of both chains
      have hlen : l.length = m.length := by omega
      by_cases hnil : l = []
      · have hmnil : m = [] := List.length_eq_zero_iff.mp (by simp [← hlen, hnil])
        exact .inl (by rw [hnil, hmnil])
      · have hmnil : m ≠ [] := fun h => hnil (List.length_eq_zero_iff.mp (by simp [hlen, h]))
        rcases ih hl hm hnil hmnil (hprevious.symm.trans hprevious') with
          rfl | ⟨x, hx, y, hy, hxy, hsame⟩
        · exact .inl rfl
        · exact .inr ⟨x, List.mem_append_left _ hx, y, List.mem_append_left _ hy, hxy, hsame⟩
    · exact .inr ⟨a, by simp, b, by simp, hab, hdigest⟩

/-- The last digest of a chain commits to all its records. -/
theorem Chained.eq_of_headDigest {l m : List ρ} (hl : Chained C n d l) (hm : Chained C n d m)
    (hlen : l.length = m.length) (hdigest : headDigest C d l = headDigest C d m)
    (hinj : ∀ a ∈ l, ∀ b ∈ m, C.digest a = C.digest b → a = b) : l = m := by
  by_cases hnil : l = []
  · have hmnil : m = [] := List.length_eq_zero_iff.mp (by simp [← hlen, hnil])
    rw [hnil, hmnil]
  · have hmnil : m ≠ [] := fun h => hnil (List.length_eq_zero_iff.mp (by simp [hlen, h]))
    rcases hl.eq_or_collision hm hnil hmnil hdigest with h | ⟨a, ha, b, hb, hab, hsame⟩
    · exact h
    · exact absurd (hinj a ha b hb hsame) hab

/-- Chains that existed, and the records that were ever appended to one. -/
structure Archive (C : Chaining ρ δ) (n : ℤ) (d : δ) (existed : List ρ → Prop)
    (appended : ρ → Prop) : Prop where
  nil : existed []
  chained : ∀ l, existed l → Chained C n d l
  recorded : ∀ l, existed l → ∀ r ∈ l, appended r
  origin : ∀ r, appended r → ∃ l, existed (l ++ [r])

/-- Records from different branches cannot be recombined into a new chain. -/
theorem Archive.existed_of_chained {existed : List ρ → Prop} {appended : ρ → Prop}
    (h : Archive C n d existed appended) {records : List ρ} (hchained : Chained C n d records)
    (happended : ∀ r ∈ records, appended r)
    (hinj : ∀ a b, appended a → appended b → C.digest a = C.digest b → a = b) :
    existed records := by
  rcases List.eq_nil_or_concat records with rfl | ⟨l, r, rfl⟩
  · exact h.nil
  · rw [List.concat_eq_append] at hchained happended ⊢
    obtain ⟨m, hm⟩ := h.origin r (happended r (by simp))
    obtain ⟨hl, hnumber, hprevious⟩ := (chained_concat l r).mp hchained
    obtain ⟨hm', hnumber', hprevious'⟩ := (chained_concat m r).mp (h.chained _ hm)
    have hlen : l.length = m.length := by omega
    have hlm : l = m := by
      refine hl.eq_of_headDigest hm' hlen (hprevious.symm.trans hprevious') fun a ha b hb => ?_
      exact hinj a b (happended a (List.mem_append_left _ ha))
        (h.recorded _ hm b (List.mem_append_left _ hb))
    rw [hlm]
    exact hm

end PamMvp.HashChains
