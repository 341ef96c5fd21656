import Mathlib.Data.List.Lex
import Mathlib.Order.Fin.Basic

/-!
# Python text and its UTF-8 encoding

A `str` is a list of code points, lone surrogates included. Strict UTF-8
encoding fails exactly on surrogates; strict decoding refuses overlong forms,
surrogates and values past the last code point, and inverts the encoder. Texts
are ordered by code point, which is the order of their encodings as bytes.
-/
namespace PamMvp.PythonText

abbrev CodePoint : Type := Fin 0x110000

theorem codePoints_ne_zero : 0x110000 ≠ 0 := by decide

instance instNeZeroCodePoints : @NeZero ℕ Zero.ofOfNat0 0x110000 := ⟨codePoints_ne_zero⟩

theorem lawfulBEq_codePoint : LawfulBEq CodePoint := inferInstance

instance instLawfulBEqCodePoint : LawfulBEq CodePoint := lawfulBEq_codePoint

abbrev PyStr : Type := List CodePoint

abbrev Bytes : Type := List UInt8

/-- A literal of the source. -/
def py (s : String) : PyStr := s.toList.map fun c => Fin.ofNat _ c.toNat

/-- `str.isspace` of one character. -/
def isSpace (c : CodePoint) : Bool :=
  (9 ≤ c.val && c.val ≤ 13) || (0x1C ≤ c.val && c.val ≤ 0x20) || c.val == 0x85 || c.val == 0xA0 ||
    c.val == 0x1680 || (0x2000 ≤ c.val && c.val ≤ 0x200A) || c.val == 0x2028 || c.val == 0x2029 ||
    c.val == 0x202F || c.val == 0x205F || c.val == 0x3000

/-- `not text.strip()`. -/
def blank (s : PyStr) : Bool := s.all isSpace

def isSurrogate (c : CodePoint) : Bool := 0xD800 ≤ c.val && c.val ≤ 0xDFFF

/-- The text has a UTF-8 encoding. -/
def encodable (s : PyStr) : Bool := s.all (! isSurrogate ·)

@[simp] theorem encodable_nil : encodable [] = true := rfl

@[simp] theorem encodable_cons (c : CodePoint) (s : PyStr) :
    encodable (c :: s) = (! isSurrogate c && encodable s) := rfl

@[simp] theorem encodable_append (s t : PyStr) :
    encodable (s ++ t) = (encodable s && encodable t) := by simp [encodable]

theorem encodable_iff (s : PyStr) : encodable s = true ↔ ∀ c ∈ s, isSurrogate c = false := by
  simp [encodable]

/-- A literal of the source holds characters only. -/
theorem encodable_py (s : String) : encodable (py s) = true := by
  refine (encodable_iff _).mpr fun c hc => ?_
  obtain ⟨d, -, rfl⟩ := List.mem_map.mp hc
  have hd := d.valid
  simp only [UInt32.isValidChar, Nat.isValidChar] at hd
  have hlt : d.toNat < 0x110000 := by
    change d.val.toNat < _
    omega
  simp only [isSurrogate, Fin.val_ofNat, Nat.mod_eq_of_lt hlt, Bool.and_eq_false_iff,
    decide_eq_false_iff_not, not_le]
  change d.val.toNat < _ ∨ _ < d.val.toNat
  omega

def utf8Char (c : CodePoint) : Bytes :=
  if c.val < 0x80 then [.ofNat c.val]
  else if c.val < 0x800 then [.ofNat (0xC0 + c.val / 64), .ofNat (0x80 + c.val % 64)]
  else if c.val < 0x10000 then
    [.ofNat (0xE0 + c.val / 4096), .ofNat (0x80 + c.val / 64 % 64), .ofNat (0x80 + c.val % 64)]
  else
    [.ofNat (0xF0 + c.val / 262144), .ofNat (0x80 + c.val / 4096 % 64),
      .ofNat (0x80 + c.val / 64 % 64), .ofNat (0x80 + c.val % 64)]

def utf8 (s : PyStr) : Bytes := s.flatMap utf8Char

/-- `text.encode("utf-8")`; `none` is `UnicodeEncodeError`. -/
def encodeUtf8 (s : PyStr) : Option Bytes := if encodable s then some (utf8 s) else none

def isTail (b : UInt8) : Bool := 0x80 ≤ b.toNat && b.toNat < 0xC0

/-- Code point of a two-byte form, when it is not overlong. -/
def twoBytes (a b : UInt8) : Option CodePoint :=
  if 0xC2 ≤ a.toNat ∧ a.toNat < 0xE0 ∧ isTail b then
    some (Fin.ofNat _ ((a.toNat - 0xC0) * 64 + (b.toNat - 0x80)))
  else none

/-- Code point of a three-byte form, when it is neither overlong nor a surrogate. -/
def threeBytes (a b c : UInt8) : Option CodePoint :=
  let n := (a.toNat - 0xE0) * 4096 + (b.toNat - 0x80) * 64 + (c.toNat - 0x80)
  if 0xE0 ≤ a.toNat ∧ a.toNat < 0xF0 ∧ isTail b ∧ isTail c ∧ 0x800 ≤ n ∧
      ¬ (0xD800 ≤ n ∧ n ≤ 0xDFFF) then
    some (Fin.ofNat _ n)
  else none

/-- Code point of a four-byte form, when it is in range and not overlong. -/
def fourBytes (a b c d : UInt8) : Option CodePoint :=
  let n := (a.toNat - 0xF0) * 262144 + (b.toNat - 0x80) * 4096 + (c.toNat - 0x80) * 64 +
    (d.toNat - 0x80)
  if 0xF0 ≤ a.toNat ∧ a.toNat < 0xF8 ∧ isTail b ∧ isTail c ∧ isTail d ∧ 0x10000 ≤ n ∧
      n < 0x110000 then
    some (Fin.ofNat _ n)
  else none

/-- The first character of a byte string, with the bytes after it. -/
def leadUtf8 : Bytes → Option (CodePoint × Bytes)
  | [] => none
  | a :: rest =>
    if a.toNat < 0x80 then some (Fin.ofNat _ a.toNat, rest)
    else match rest with
      | [] => none
      | b :: rest => match twoBytes a b with
        | some p => some (p, rest)
        | none => match rest with
          | [] => none
          | c :: rest => match threeBytes a b c with
            | some p => some (p, rest)
            | none => match rest with
              | [] => none
              | d :: rest => (fourBytes a b c d).map (·, rest)

def decodeUpTo : ℕ → Bytes → Option PyStr
  | _, [] => some []
  | 0, _ :: _ => none
  | n + 1, b :: bs => (leadUtf8 (b :: bs)).bind fun p => (decodeUpTo n p.2).map (p.1 :: ·)

/-- `data.decode("utf-8")`; `none` is `UnicodeDecodeError`. -/
def decodeUtf8 (data : Bytes) : Option PyStr := decodeUpTo data.length data

@[simp] theorem utf8_nil : utf8 [] = [] := rfl

@[simp] theorem utf8_cons (c : CodePoint) (s : PyStr) : utf8 (c :: s) = utf8Char c ++ utf8 s := rfl

@[simp] theorem utf8_append (s t : PyStr) : utf8 (s ++ t) = utf8 s ++ utf8 t := by simp [utf8]

private theorem toNat_byte {n : ℕ} (h : n < 256) : (UInt8.ofNat n).toNat = n := by
  simpa using Nat.mod_eq_of_lt h

private theorem codePoint_ofNat (c : CodePoint) {n : ℕ} (h : n = c.val) :
    Fin.ofNat 0x110000 n = c := by
  subst h
  simp

theorem twoBytes_utf8 (c : CodePoint) (h₁ : 0x80 ≤ c.val) (h₂ : c.val < 0x800) :
    twoBytes (.ofNat (0xC0 + c.val / 64)) (.ofNat (0x80 + c.val % 64)) = some c := by
  have ha := toNat_byte (n := 0xC0 + c.val / 64) (by omega)
  have hb := toNat_byte (n := 0x80 + c.val % 64) (by omega)
  rw [twoBytes, isTail, ha, hb, if_pos ⟨by omega, by omega, by simp; omega⟩]
  exact congrArg some (codePoint_ofNat c (by omega))

theorem threeBytes_utf8 (c : CodePoint) (hs : isSurrogate c = false) (h₁ : 0x800 ≤ c.val)
    (h₂ : c.val < 0x10000) :
    threeBytes (.ofNat (0xE0 + c.val / 4096)) (.ofNat (0x80 + c.val / 64 % 64))
      (.ofNat (0x80 + c.val % 64)) = some c := by
  have ha := toNat_byte (n := 0xE0 + c.val / 4096) (by omega)
  have hb := toNat_byte (n := 0x80 + c.val / 64 % 64) (by omega)
  have hc := toNat_byte (n := 0x80 + c.val % 64) (by omega)
  have hv : (0xE0 + c.val / 4096 - 0xE0) * 4096 + (0x80 + c.val / 64 % 64 - 0x80) * 64 +
      (0x80 + c.val % 64 - 0x80) = c.val := by omega
  have hs' : ¬ (0xD800 ≤ c.val ∧ c.val ≤ 0xDFFF) := by simpa [isSurrogate] using hs
  rw [threeBytes, isTail, isTail, ha, hb, hc, hv,
    if_pos ⟨by omega, by omega, by simp; omega, by simp; omega, h₁, hs'⟩]
  exact congrArg some (codePoint_ofNat c rfl)

theorem fourBytes_utf8 (c : CodePoint) (h : 0x10000 ≤ c.val) :
    fourBytes (.ofNat (0xF0 + c.val / 262144)) (.ofNat (0x80 + c.val / 4096 % 64))
      (.ofNat (0x80 + c.val / 64 % 64)) (.ofNat (0x80 + c.val % 64)) = some c := by
  have hlt := c.isLt
  have ha := toNat_byte (n := 0xF0 + c.val / 262144) (by omega)
  have hb := toNat_byte (n := 0x80 + c.val / 4096 % 64) (by omega)
  have hc := toNat_byte (n := 0x80 + c.val / 64 % 64) (by omega)
  have hd := toNat_byte (n := 0x80 + c.val % 64) (by omega)
  have hv : (0xF0 + c.val / 262144 - 0xF0) * 262144 + (0x80 + c.val / 4096 % 64 - 0x80) * 4096 +
      (0x80 + c.val / 64 % 64 - 0x80) * 64 + (0x80 + c.val % 64 - 0x80) = c.val := by omega
  rw [fourBytes, isTail, isTail, isTail, ha, hb, hc, hd, hv,
    if_pos ⟨by omega, by omega, by simp; omega, by simp; omega, by simp; omega, h, hlt⟩]
  exact congrArg some (codePoint_ofNat c rfl)

theorem twoBytes_none {a b : UInt8} (h : 0xE0 ≤ a.toNat) : twoBytes a b = none := by
  rw [twoBytes, if_neg (by omega)]

theorem threeBytes_none {a b c : UInt8} (h : 0xF0 ≤ a.toNat) : threeBytes a b c = none := by
  rw [threeBytes, if_neg (by omega)]

/-- The encoding of a character is read back whatever follows it. -/
theorem leadUtf8_utf8Char (c : CodePoint) (hs : isSurrogate c = false) (rest : Bytes) :
    leadUtf8 (utf8Char c ++ rest) = some (c, rest) := by
  unfold utf8Char
  split_ifs with h₁ h₂ h₃
  · have ha := toNat_byte (n := c.val) (by omega)
    simp only [List.cons_append, List.nil_append, leadUtf8]
    rw [if_pos (by omega), codePoint_ofNat c ha]
  · have ha := toNat_byte (n := 0xC0 + c.val / 64) (by omega)
    simp only [List.cons_append, List.nil_append, leadUtf8]
    rw [if_neg (by omega), twoBytes_utf8 c (by omega) h₂]
  · have ha := toNat_byte (n := 0xE0 + c.val / 4096) (by omega)
    simp only [List.cons_append, List.nil_append, leadUtf8]
    rw [if_neg (by omega), twoBytes_none (by omega)]
    simp only [threeBytes_utf8 c hs (by omega) h₃]
  · have hlt := c.isLt
    have ha := toNat_byte (n := 0xF0 + c.val / 262144) (by omega)
    simp only [List.cons_append, List.nil_append, leadUtf8]
    rw [if_neg (by omega), twoBytes_none (by omega)]
    simp only [threeBytes_none (a := .ofNat (0xF0 + c.val / 262144)) (by omega),
      fourBytes_utf8 c (by omega), Option.map_some]

theorem utf8Char_ne_nil (c : CodePoint) : utf8Char c ≠ [] := by
  unfold utf8Char
  split_ifs <;> simp

theorem decodeUpTo_utf8 (s : PyStr) (hs : encodable s = true) (n : ℕ) (hn : (utf8 s).length ≤ n) :
    decodeUpTo n (utf8 s) = some s := by
  induction s generalizing n with
  | nil => cases n <;> rfl
  | cons c s ih =>
    simp only [encodable_cons, Bool.and_eq_true, Bool.not_eq_true'] at hs
    have hlead := leadUtf8_utf8Char c hs.1 (utf8 s)
    cases hc : utf8Char c with
    | nil => exact absurd hc (utf8Char_ne_nil c)
    | cons b bs =>
      rw [hc] at hlead
      rw [utf8_cons, hc] at hn ⊢
      cases n with
      | zero => simp at hn
      | succ n =>
        simp only [List.cons_append, List.length_cons, List.length_append] at hn hlead
        simp only [List.cons_append, decodeUpTo, hlead, Option.bind_some, ih hs.2 n (by omega),
          Option.map_some]

theorem decodeUtf8_utf8 (s : PyStr) (hs : encodable s = true) : decodeUtf8 (utf8 s) = some s :=
  decodeUpTo_utf8 s hs _ (Nat.le_refl _)

theorem utf8_injective {s t : PyStr} (hs : encodable s = true) (ht : encodable t = true)
    (h : utf8 s = utf8 t) : s = t := by
  have he := decodeUtf8_utf8 s hs
  rw [h, decodeUtf8_utf8 t ht] at he
  exact (Option.some.inj he).symm

private theorem isTail_iff (b : UInt8) : isTail b = true ↔ 0x80 ≤ b.toNat ∧ b.toNat < 0xC0 := by
  simp [isTail]

private theorem byte_eq (b : UInt8) {n : ℕ} (h : n = b.toNat) : UInt8.ofNat n = b := by
  subst h
  simp

theorem twoBytes_sound {a b : UInt8} {p : CodePoint} (h : twoBytes a b = some p) :
    utf8Char p = [a, b] ∧ isSurrogate p = false := by
  simp only [twoBytes, isTail_iff, Option.ite_none_right_eq_some, Option.some.injEq] at h
  obtain ⟨⟨h₁, h₂, h₃, h₄⟩, rfl⟩ := h
  have hv : (Fin.ofNat 0x110000 ((a.toNat - 0xC0) * 64 + (b.toNat - 0x80))).val =
      (a.toNat - 0xC0) * 64 + (b.toNat - 0x80) := Nat.mod_eq_of_lt (by omega)
  constructor
  · rw [utf8Char, hv, if_neg (by omega), if_pos (by omega), byte_eq a (by omega),
      byte_eq b (by omega)]
  · simp only [isSurrogate, hv, Bool.and_eq_false_imp, decide_eq_true_eq, decide_eq_false_iff_not]
    omega

theorem threeBytes_sound {a b c : UInt8} {p : CodePoint} (h : threeBytes a b c = some p) :
    utf8Char p = [a, b, c] ∧ isSurrogate p = false := by
  simp only [threeBytes, isTail_iff, Option.ite_none_right_eq_some, Option.some.injEq] at h
  obtain ⟨⟨h₁, h₂, ⟨h₃, h₄⟩, ⟨h₅, h₆⟩, h₇, h₈⟩, rfl⟩ := h
  generalize hn : (a.toNat - 0xE0) * 4096 + (b.toNat - 0x80) * 64 + (c.toNat - 0x80) = n at h₇ h₈ ⊢
  have hv : (Fin.ofNat 0x110000 n).val = n := Nat.mod_eq_of_lt (by omega)
  constructor
  · rw [utf8Char, hv, if_neg (by omega), if_neg (by omega), if_pos (by omega), byte_eq a (by omega),
      byte_eq b (by omega), byte_eq c (by omega)]
  · simp only [isSurrogate, hv, Bool.and_eq_false_imp, decide_eq_true_eq, decide_eq_false_iff_not]
    omega

theorem fourBytes_sound {a b c d : UInt8} {p : CodePoint} (h : fourBytes a b c d = some p) :
    utf8Char p = [a, b, c, d] ∧ isSurrogate p = false := by
  simp only [fourBytes, isTail_iff, Option.ite_none_right_eq_some, Option.some.injEq] at h
  obtain ⟨⟨h₁, h₂, ⟨h₃, h₄⟩, ⟨h₅, h₆⟩, ⟨h₇, h₈⟩, h₉, h₁₀⟩, rfl⟩ := h
  generalize hn : (a.toNat - 0xF0) * 262144 + (b.toNat - 0x80) * 4096 + (c.toNat - 0x80) * 64 +
    (d.toNat - 0x80) = n at h₉ h₁₀ ⊢
  have hv : (Fin.ofNat 0x110000 n).val = n := Nat.mod_eq_of_lt (by omega)
  constructor
  · rw [utf8Char, hv, if_neg (by omega), if_neg (by omega), if_neg (by omega), byte_eq a (by omega),
      byte_eq b (by omega), byte_eq c (by omega), byte_eq d (by omega)]
  · simp only [isSurrogate, hv, Bool.and_eq_false_imp, decide_eq_true_eq, decide_eq_false_iff_not]
    omega

/-- Only the encoding of a character that is no surrogate is accepted. -/
theorem leadUtf8_sound {data rest : Bytes} {p : CodePoint} (h : leadUtf8 data = some (p, rest)) :
    data = utf8Char p ++ rest ∧ isSurrogate p = false := by
  cases data with
  | nil => simp [leadUtf8] at h
  | cons a data =>
    simp only [leadUtf8] at h
    split_ifs at h with ha
    · cases h
      have hv : (Fin.ofNat 0x110000 a.toNat).val = a.toNat := Nat.mod_eq_of_lt (by omega)
      refine ⟨by rw [utf8Char, hv, if_pos ha, byte_eq a rfl]; rfl, ?_⟩
      simp only [isSurrogate, hv, Bool.and_eq_false_imp, decide_eq_true_eq, decide_eq_false_iff_not]
      omega
    rcases data with _ | ⟨b, data⟩
    · simp at h
    cases h₂ : twoBytes a b with
    | some q =>
      simp only [h₂, Option.some.injEq, Prod.mk.injEq] at h
      obtain ⟨rfl, rfl⟩ := h
      obtain ⟨hq, hs⟩ := twoBytes_sound h₂
      exact ⟨by simp [hq], hs⟩
    | none =>
      rcases data with _ | ⟨c, data⟩
      · simp [h₂] at h
      cases h₃ : threeBytes a b c with
      | some q =>
        simp only [h₂, h₃, Option.some.injEq, Prod.mk.injEq] at h
        obtain ⟨rfl, rfl⟩ := h
        obtain ⟨hq, hs⟩ := threeBytes_sound h₃
        exact ⟨by simp [hq], hs⟩
      | none =>
        rcases data with _ | ⟨d, data⟩
        · simp [h₂, h₃] at h
        simp only [h₂, h₃, Option.map_eq_some_iff, Prod.mk.injEq] at h
        obtain ⟨q, h₄, rfl, rfl⟩ := h
        obtain ⟨hq, hs⟩ := fourBytes_sound h₄
        exact ⟨by simp [hq], hs⟩

theorem decodeUpTo_sound (n : ℕ) (data : Bytes) (s : PyStr) (h : decodeUpTo n data = some s) :
    utf8 s = data ∧ encodable s = true := by
  induction n generalizing data s with
  | zero =>
    cases data with
    | nil => simp_all [decodeUpTo]
    | cons b bs => simp [decodeUpTo] at h
  | succ n ih =>
    cases data with
    | nil => simp_all [decodeUpTo]
    | cons b bs =>
      simp only [decodeUpTo, Option.bind_eq_some_iff, Option.map_eq_some_iff, Prod.exists] at h
      obtain ⟨p, rest, hlead, t, ht, rfl⟩ := h
      obtain ⟨hp, hs⟩ := leadUtf8_sound hlead
      obtain ⟨hu, he⟩ := ih rest t ht
      exact ⟨by rw [utf8_cons, hu, hp], by simp [hs, he]⟩

/-- The strict decoder is the inverse of the strict encoder. -/
theorem decodeUtf8_eq_some_iff (data : Bytes) (s : PyStr) :
    decodeUtf8 data = some s ↔ encodeUtf8 s = some data := by
  constructor
  · intro h
    obtain ⟨hu, he⟩ := decodeUpTo_sound _ data s h
    simp [encodeUtf8, he, hu]
  · intro h
    simp only [encodeUtf8, Option.ite_none_right_eq_some, Option.some.injEq] at h
    obtain ⟨he, rfl⟩ := h
    exact decodeUtf8_utf8 s he

private theorem byte_lt {m n : ℕ} (hm : m < 256) (hn : n < 256) :
    UInt8.ofNat m < UInt8.ofNat n ↔ m < n := by
  rw [UInt8.lt_iff_toNat_lt, toNat_byte hm, toNat_byte hn]

private theorem byte_inj {m n : ℕ} (hm : m < 256) (hn : n < 256) :
    UInt8.ofNat m = UInt8.ofNat n ↔ m = n := by
  rw [← UInt8.toNat_inj, toNat_byte hm, toNat_byte hn]

theorem utf8Char_lt {c d : CodePoint} (h : c < d) (x y : Bytes) :
    utf8Char c ++ x < utf8Char d ++ y := by
  have hcd : c.val < d.val := h
  have hd := d.isLt
  unfold utf8Char
  split_ifs <;>
    simp (disch := omega) only [List.cons_append, List.nil_append, List.cons_lt_cons_iff,
      byte_lt, byte_inj] <;>
    omega

theorem append_lt_append (p : Bytes) {x y : Bytes} (h : x < y) : p ++ x < p ++ y := by
  induction p with
  | nil => exact h
  | cons b p ih => exact List.Lex.cons ih

/-- Comparing UTF-8 encodings bytewise is comparing the texts by code point. -/
theorem utf8_lt_utf8 {s t : PyStr} (h : s < t) : utf8 s < utf8 t := by
  induction s generalizing t with
  | nil =>
    cases t with
    | nil => exact absurd h (lt_irrefl _)
    | cons d t =>
      cases hd : utf8Char d with
      | nil => exact absurd hd (utf8Char_ne_nil d)
      | cons b bs => 
        rw [utf8_cons, hd]
        exact List.Lex.nil
  | cons c s ih =>
    cases t with
    | nil => cases h
    | cons d t =>
      rw [List.cons_lt_cons_iff] at h
      rcases h with h | ⟨rfl, h⟩
      · exact utf8Char_lt h _ _
      · exact append_lt_append _ (ih h)

theorem utf8_lt_iff (s t : PyStr) : utf8 s < utf8 t ↔ s < t := by
  refine ⟨fun h => ?_, utf8_lt_utf8⟩
  rcases lt_trichotomy s t with hst | rfl | hts
  · exact hst
  · exact absurd h (List.lt_irrefl _)
  · exact absurd h (List.lt_asymm (utf8_lt_utf8 hts))

example : decodeUtf8 (utf8 (py "aé€😀")) = some (py "aé€😀") := by decide

end PamMvp.PythonText
