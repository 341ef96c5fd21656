import PamMvp.PrefixCodes
import PamMvp.PythonText

/-!
# JSON texts as `json.dumps` writes them

The texts of `json.dumps(..., ensure_ascii=False, separators=(",", ":"))` for a
list of pairs of a string and a scalar. Different lists have different texts.
-/
namespace PamMvp.JsonText
open PythonText PrefixCodes

/-- A lowercase hexadecimal digit. -/
def hexDigit (n : ℕ) : CodePoint := Fin.ofNat _ n.digitChar.toNat

/-- A character inside a JSON string. -/
def escape (c : CodePoint) : PyStr :=
  if c = 0x22 then py "\\\""
  else if c = 0x5c then py "\\\\"
  else if c = 0x0a then py "\\n"
  else if c = 0x0d then py "\\r"
  else if c = 0x09 then py "\\t"
  else if c = 0x0c then py "\\f"
  else if c = 0x08 then py "\\b"
  else if c.val < 0x20 then py "\\u00" ++ [hexDigit (c.val / 16), hexDigit (c.val % 16)]
  else [c]

def quote (s : PyStr) : PyStr := py "\"" ++ (s.flatMap escape ++ py "\"")

/-- A number in decimal. -/
def decimal (n : ℕ) : PyStr := (Nat.toDigits 10 n).map fun c => Fin.ofNat _ c.toNat

/-- `int.__repr__`. -/
def intText : ℤ → PyStr
  | .ofNat n => decimal n
  | .negSucc n => py "-" ++ decimal (n + 1)

inductive JsonScalar where
  | null
  | int (i : ℤ)
  | str (s : PyStr)
  deriving DecidableEq

def JsonScalar.text : JsonScalar → PyStr
  | .null => py "null"
  | .int i => intText i
  | .str s => quote s

/-- A list of a name and a value. -/
def pairText (field : PyStr × JsonScalar) : PyStr :=
  py "[" ++ (quote field.1 ++ (py "," ++ (field.2.text ++ py "]")))

def dumps (fields : List (PyStr × JsonScalar)) : PyStr :=
  py "[" ++ (List.intercalate (py ",") (fields.map pairText) ++ py "]")

/-- The characters up to the backslash hold all the escaped ones. -/
theorem escape_small (c d : Fin 93) :
    escape (Fin.castLE (by decide) c) <+: escape (Fin.castLE (by decide) d) → c = d := by
  revert c d
  decide +kernel

theorem escape_small_head (c : Fin 93) :
    (escape (Fin.castLE (by decide) c)).head?.any (·.val < 93) = true := by
  revert c
  decide +kernel

theorem escape_large {c : CodePoint} (hc : 93 ≤ c.val) : escape c = [c] := by
  have hne : ∀ d : CodePoint, d.val < 93 → c ≠ d := by
    intro d hd hcd
    rw [hcd] at hc
    omega
  unfold escape
  rw [if_neg (hne _ (by decide)), if_neg (hne _ (by decide)), if_neg (hne _ (by decide)),
    if_neg (hne _ (by decide)), if_neg (hne _ (by decide)), if_neg (hne _ (by decide)),
    if_neg (hne _ (by decide)), if_neg (by omega)]

theorem exists_small {c : CodePoint} (hc : c.val < 93) :
    ∃ d : Fin 93, c = Fin.castLE (by decide) d :=
  ⟨⟨c.val, hc⟩, rfl⟩

theorem escape_ne_nil (c : CodePoint) : escape c ≠ [] := by
  intro h
  by_cases hc : c.val < 93
  · obtain ⟨d, rfl⟩ := exists_small hc
    have hd := escape_small_head d
    simp [h] at hd
  · simp [escape_large (not_lt.mp hc)] at h

theorem escape_selfDelimiting : SelfDelimiting escape := by
  refine .of_extension fun c d h => ?_
  by_cases hc : c.val < 93
  · obtain ⟨c, rfl⟩ := exists_small hc
    by_cases hd : d.val < 93
    · obtain ⟨d, rfl⟩ := exists_small hd
      rw [escape_small c d h]
    · have hhead := escape_small_head c
      rw [escape_large (not_lt.mp hd)] at h
      obtain ⟨x, l, hx⟩ := List.exists_cons_of_ne_nil (escape_ne_nil (Fin.castLE (by decide) c))
      rw [hx] at h hhead
      rw [(List.cons_prefix_cons.mp h).1] at hhead
      exact absurd (by simpa using hhead) hd
  · rw [escape_large (not_lt.mp hc)] at h
    by_cases hd : d.val < 93
    · obtain ⟨d, rfl⟩ := exists_small hd
      have hhead := escape_small_head d
      obtain ⟨rest, hrest⟩ := h
      rw [← hrest] at hhead
      exact absurd (by simpa using hhead) hc
    · rw [escape_large (not_lt.mp hd)] at h
      exact (List.cons_prefix_cons.mp h).1

/-- No character inside a string is read as the closing quote. -/
theorem escape_ne_quote (c : CodePoint) (r s : PyStr) : escape c ++ r ≠ py "\"" ++ s := by
  intro h
  by_cases hc : c.val < 93
  · obtain ⟨d, rfl⟩ := exists_small hc
    have hne : ∀ d : Fin 93, (escape (Fin.castLE (by decide) d)).head? ≠ some 0x22 := by
      decide +kernel
    refine hne d ?_
    obtain ⟨x, l, hx⟩ := List.exists_cons_of_ne_nil (escape_ne_nil (Fin.castLE (by decide) d))
    rw [hx] at h ⊢
    rw [(List.cons.inj h).1]
    rfl
  · rw [escape_large (not_lt.mp hc)] at h
    rw [(List.cons.inj h).1] at hc
    exact hc (by decide)

theorem quote_selfDelimiting : SelfDelimiting quote :=
  (escape_selfDelimiting.flatMap escape_ne_quote).const_append (py "\"")

theorem charCode_injective :
    Function.Injective fun c : Char => (Fin.ofNat 0x110000 c.toNat : CodePoint) := by
  intro c d h
  have hlt : ∀ c : Char, c.toNat < 0x110000 := by
    intro c
    have hc := c.valid
    simp only [UInt32.isValidChar, Nat.isValidChar] at hc
    change c.val.toNat < _
    omega
  have hval : c.toNat % 0x110000 = d.toNat % 0x110000 := congrArg Fin.val h
  rw [Nat.mod_eq_of_lt (hlt c), Nat.mod_eq_of_lt (hlt d)] at hval
  exact Char.toNat_inj.mp hval

theorem decimal_injective : Function.Injective decimal := by
  intro m n h
  have hdigits : Nat.toDigits 10 m = Nat.toDigits 10 n :=
    List.map_injective_iff.mpr charCode_injective h
  rw [← Nat.ofDigitChars_toDigits (b := 10) (n := m) (by omega) (by omega), hdigits,
    Nat.ofDigitChars_toDigits (by omega) (by omega)]

theorem decimal_digit {n : ℕ} {c : CodePoint} (h : c ∈ decimal n) :
    48 ≤ c.val ∧ c.val ≤ 57 := by
  obtain ⟨d, hd, rfl⟩ := List.mem_map.mp h
  have hdigit := Nat.isDigit_of_mem_toDigits (by omega) (by omega) hd
  simp only [Char.isDigit, Bool.and_eq_true, decide_eq_true_eq, ge_iff_le,
    UInt32.le_iff_toNat_le] at hdigit
  have hlow : 48 ≤ d.toNat := hdigit.1
  have hhigh : d.toNat ≤ 57 := hdigit.2
  rw [Fin.val_ofNat, Nat.mod_eq_of_lt (by omega)]
  exact ⟨hlow, hhigh⟩

theorem decimal_head (n : ℕ) : ∃ c rest, decimal n = c :: rest ∧ 48 ≤ c.val ∧ c.val ≤ 57 := by
  have hne : decimal n ≠ [] := by simp [decimal]
  obtain ⟨c, rest, h⟩ := List.exists_cons_of_ne_nil hne
  exact ⟨c, rest, h, decimal_digit (by rw [h]; exact List.mem_cons_self ..)⟩

/-- The first character of a number is a minus sign or a digit. -/
theorem intText_head (i : ℤ) :
    ∃ c rest, intText i = c :: rest ∧ (c.val = 45 ∨ 48 ≤ c.val ∧ c.val ≤ 57) := by
  cases i with
  | ofNat n =>
    obtain ⟨c, rest, h, hc⟩ := decimal_head n
    exact ⟨c, rest, h, .inr hc⟩
  | negSucc n => exact ⟨45, decimal (n + 1), rfl, .inl rfl⟩

theorem intText_injective : Function.Injective intText := by
  intro i j h
  cases i with
  | ofNat m =>
    cases j with
    | ofNat n => rw [decimal_injective h]
    | negSucc n =>
      obtain ⟨c, rest, hm, hc⟩ := decimal_head m
      simp only [intText, hm] at h
      rw [(List.cons.inj h).1] at hc
      exact absurd hc (by decide)
  | negSucc m =>
    cases j with
    | ofNat n =>
      obtain ⟨c, rest, hn, hc⟩ := decimal_head n
      simp only [intText, hn] at h
      rw [← (List.cons.inj h).1] at hc
      exact absurd hc (by decide)
    | negSucc n =>
      have hmn := decimal_injective (List.append_cancel_left h)
      rw [Nat.succ_injective hmn]

theorem intText_closed (i : ℤ) : (0x5d : CodePoint) ∉ intText i := by
  have hclosed : ∀ n, (0x5d : CodePoint) ∉ decimal n := by
    intro n h
    exact absurd (decimal_digit h) (by decide)
  cases i with
  | ofNat n => exact hclosed n
  | negSucc n =>
    intro h
    rcases List.mem_append.mp h with h | h
    · exact absurd h (by decide)
    · exact hclosed _ h

theorem scalar_selfDelimiting : SelfDelimiting fun v : JsonScalar => v.text ++ py "]" := by
  have hint : SelfDelimiting fun i : ℤ => intText i ++ py "]" :=
    .of_mark intText_injective intText_closed
  have hnotInt : ∀ i r s, (∃ x l, s = x :: l ∧ (x = 0x22 ∨ x = 0x6e)) → intText i ++ r ≠ s := by
    intro i r s hs h
    obtain ⟨c, rest, hi, hc⟩ := intText_head i
    obtain ⟨x, l, rfl, hx⟩ := hs
    rw [hi] at h
    rw [(List.cons.inj h).1] at hc
    rcases hx with rfl | rfl <;> exact absurd hc (by decide)
  intro v w r s h
  cases v with
  | null =>
    cases w with
    | null => exact ⟨rfl, List.append_cancel_left h⟩
    | int j =>
      simp only [JsonScalar.text, List.append_assoc] at h
      exact absurd h.symm (hnotInt j _ _ ⟨_, _, rfl, .inr rfl⟩)
    | str t => exact absurd (List.cons.inj h).1 (by decide)
  | int i =>
    cases w with
    | null =>
      simp only [JsonScalar.text, List.append_assoc] at h
      exact absurd h (hnotInt i _ _ ⟨_, _, rfl, .inr rfl⟩)
    | int j =>
      obtain ⟨hij, hrs⟩ := hint i j r s h
      exact ⟨by rw [hij], hrs⟩
    | str t =>
      simp only [JsonScalar.text, List.append_assoc] at h
      exact absurd h (hnotInt i _ _ ⟨_, _, rfl, .inl rfl⟩)
  | str t =>
    cases w with
    | null => exact absurd (List.cons.inj h).1 (by decide)
    | int j =>
      simp only [JsonScalar.text, List.append_assoc] at h
      exact absurd h.symm (hnotInt j _ _ ⟨_, _, rfl, .inl rfl⟩)
    | str u =>
      simp only [JsonScalar.text, List.append_assoc] at h
      obtain ⟨htu, hrest⟩ := quote_selfDelimiting t u _ _ h
      exact ⟨by rw [htu], List.append_cancel_left hrest⟩

theorem pairText_selfDelimiting : SelfDelimiting pairText :=
  (quote_selfDelimiting.append (scalar_selfDelimiting.const_append (py ","))).const_append (py "[")

theorem intercalate_cons (sep x : PyStr) (l : List PyStr) :
    List.intercalate sep (x :: l) = x ++ l.flatMap fun y => sep ++ y := by
  induction l generalizing x with
  | nil => simp [List.intercalate]
  | cons y l ih => simp_all [List.intercalate]

/-- The text determines the list. -/
theorem dumps_injective : Function.Injective dumps := by
  have hrest : SelfDelimiting fun l : List (PyStr × JsonScalar) =>
      l.flatMap (fun field => py "," ++ pairText field) ++ py "]" :=
    (pairText_selfDelimiting.const_append (py ",")).flatMap fun _ _ _ h =>
      absurd (List.cons.inj h).1 (by decide)
  have hcons : ∀ field rest, dumps (field :: rest) = py "[" ++ (pairText field ++
      (rest.flatMap (fun field => py "," ++ pairText field) ++ py "]")) := by
    intro field rest
    simp [dumps, intercalate_cons, List.flatMap_map]
  intro l m h
  cases l with
  | nil =>
    cases m with
    | nil => rfl
    | cons b m =>
      rw [hcons] at h
      exact absurd (List.cons.inj (List.append_cancel_left h)).1 (by decide)
  | cons a l =>
    cases m with
    | nil =>
      rw [hcons] at h
      exact absurd (List.cons.inj (List.append_cancel_left h)).1 (by decide)
    | cons b m =>
      rw [hcons, hcons] at h
      obtain ⟨hab, hlm⟩ := pairText_selfDelimiting a b _ _ (List.append_cancel_left h)
      rw [hab, hrest.injective hlm]

example : dumps [(py "id", .str (py "a\"\n")), (py "n", .int (-3)), (py "x", .null)] =
    py "[[\"id\",\"a\\\"\\n\"],[\"n\",-3],[\"x\",null]]" := by decide +kernel

section Encodable

theorem encodable_flatMap {α : Type} (f : α → PyStr) (l : List α) :
    encodable (l.flatMap f) = l.all fun a => encodable (f a) := by
  induction l with
  | nil => rfl
  | cons a l ih => rw [List.flatMap_cons, encodable_append, ih, List.all_cons]

theorem escape_encodable (c : CodePoint) : encodable (escape c) = ! isSurrogate c := by
  by_cases hc : c.val < 93
  · obtain ⟨d, rfl⟩ := exists_small hc
    revert d
    decide +kernel
  · simp [escape_large (not_lt.mp hc)]

/-- Quoting neither adds nor removes a surrogate. -/
theorem quote_encodable (s : PyStr) : encodable (quote s) = encodable s := by
  simp only [quote, encodable_append, encodable_py, encodable_flatMap, escape_encodable,
    Bool.true_and, Bool.and_true]
  rfl

theorem intText_encodable (i : ℤ) : encodable (intText i) = true := by
  have hdecimal (n : ℕ) : encodable (decimal n) = true := by
    refine (encodable_iff _).mpr fun c hc => ?_
    have hdigit := decimal_digit hc
    simp only [isSurrogate, Bool.and_eq_false_iff, decide_eq_false_iff_not]
    omega
  cases i with
  | ofNat n => exact hdecimal n
  | negSucc n => simp only [intText, encodable_append, encodable_py, hdecimal, Bool.and_self]

def JsonScalar.encodes : JsonScalar → Bool
  | .str s => encodable s
  | _ => true

@[simp] theorem encodes_int (i : ℤ) : (JsonScalar.int i).encodes = true := rfl

@[simp] theorem encodes_str (s : PyStr) : (JsonScalar.str s).encodes = encodable s := rfl

theorem pairText_encodable (field : PyStr × JsonScalar) :
    encodable (pairText field) = (encodable field.1 && field.2.encodes) := by
  have htext : encodable field.2.text = field.2.encodes := by
    cases field.2 with
    | null => exact encodable_py "null"
    | int i => exact intText_encodable i
    | str s => exact quote_encodable s
  simp only [pairText, encodable_append, encodable_py, quote_encodable, htext, Bool.true_and,
    Bool.and_true]

theorem dumps_encodable (fields : List (PyStr × JsonScalar)) :
    encodable (dumps fields) = fields.all fun field => encodable field.1 && field.2.encodes := by
  have hpairs : encodable (List.intercalate (py ",") (fields.map pairText)) =
      fields.all fun field => encodable field.1 && field.2.encodes := by
    cases fields with
    | nil => rfl
    | cons field fields =>
      rw [List.map_cons, intercalate_cons, encodable_append, encodable_flatMap, List.all_map,
        List.all_cons, pairText_encodable]
      simp only [Function.comp_def, encodable_append, encodable_py, pairText_encodable,
        Bool.true_and]
  simp only [dumps, encodable_append, encodable_py, hpairs, Bool.true_and, Bool.and_true]

end Encodable

end PamMvp.JsonText
