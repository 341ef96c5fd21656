import PamMvp.DateTimes
import Mathlib.Tactic.Linarith

/-!
# Timestamps as text

The text of a UTC timestamp determines the timestamp: every field is padded to a
fixed width, and the calendar date determines the day.
-/
namespace PamMvp.TimestampTexts
open PythonText DateTimes

section Padding

theorem digit_injective {a b : ℕ} (ha : a < 10) (hb : b < 10) (h : digit a = digit b) : a = b := by
  have hval := congrArg Fin.val h
  simp only [digit, Fin.val_ofNat] at hval
  omega

theorem padded_length (width n : ℕ) : (padded width n).length = width := by
  induction width generalizing n with
  | zero => rfl
  | succ width ih => simp [padded, ih]

theorem padded_injective {width a b : ℕ} (ha : a < 10 ^ width) (hb : b < 10 ^ width)
    (h : padded width a = padded width b) : a = b := by
  induction width generalizing a b with
  | zero => omega
  | succ width ih =>
    have hlen : (padded width (a / 10)).length = (padded width (b / 10)).length := by
      rw [padded_length, padded_length]
    obtain ⟨hrest, hlast⟩ := List.append_inj h hlen
    have hdigit := digit_injective (Nat.mod_lt a (by omega)) (Nat.mod_lt b (by omega))
      (List.cons.inj hlast).1
    have hquot : a / 10 = b / 10 := by
      have ha' : a < 10 ^ width * 10 := by simpa [pow_succ] using ha
      have hb' : b < 10 ^ width * 10 := by simpa [pow_succ] using hb
      exact ih (by omega) (by omega) hrest
    omega

/-- A padded field in front of a text can be read off it. -/
theorem padded_append_inj {width a b : ℕ} {s t : PyStr} (ha : a < 10 ^ width)
    (hb : b < 10 ^ width) (h : padded width a ++ s = padded width b ++ t) : a = b ∧ s = t := by
  obtain ⟨hpadded, hrest⟩ := List.append_inj h (by rw [padded_length, padded_length])
  exact ⟨padded_injective ha hb hpadded, hrest⟩

end Padding

section Calendar

def isLeap (year : ℕ) : Bool := year % 4 = 0 ∧ (year % 100 ≠ 0 ∨ year % 400 = 0)

/-- Days in the years before the given one. -/
def daysBeforeYear (year : ℕ) : ℕ :=
  let y := year - 1
  y * 365 + y / 4 - y / 100 + y / 400

def dayOfYear (leap : Bool) (month day : ℕ) : ℕ :=
  daysBeforeMonth.getD month 0 + (if 2 < month ∧ leap then 1 else 0) + day

/-- The ordinal of a date, counted from one. -/
def dateToOrdinal (date : ℕ × ℕ × ℕ) : ℕ :=
  daysBeforeYear date.1 + dayOfYear (isLeap date.1) date.2.1 date.2.2

/-- Month and day of the zero-based day `n` of a year. -/
def monthDay (leap : Bool) (n : ℕ) : ℕ × ℕ :=
  let month := (n + 50) / 32
  let preceding := daysBeforeMonth.getD month 0 + if 2 < month ∧ leap then 1 else 0
  if n < preceding then
    let earlier := preceding -
      (daysInMonth.getD (month - 1) 0 + if month - 1 = 2 ∧ leap then 1 else 0)
    (month - 1, n - earlier + 1)
  else (month, n - preceding + 1)

theorem dayOfYear_monthDay : ∀ leap : Bool, ∀ n < 365,
    dayOfYear leap (monthDay leap n).1 (monthDay leap n).2 = n + 1 ∧
      (monthDay leap n).1 < 100 ∧ (monthDay leap n).2 < 100 := by
  decide +kernel

/-- The parts of a zero-based day in cycles of 400, 100, 4 and 1 years. -/
theorem ordinalToDate_cases (n : ℕ) : ∃ n400 n100 n4 n1 r : ℕ,
    n = n400 * 146097 + n100 * 36524 + n4 * 1461 + n1 * 365 + r ∧
      n4 ≤ 24 ∧ r < 365 ∧
      (((n100 = 4 ∧ n4 = 0 ∧ n1 = 0 ∧ r = 0 ∨
            n100 ≤ 3 ∧ n4 ≤ 23 ∧ n1 = 4 ∧ r = 0) ∧
          ordinalToDate (n + 1) = (n400 * 400 + n100 * 100 + n4 * 4 + n1, 12, 31)) ∨
        (n100 ≤ 3 ∧ n1 ≤ 3 ∧ ordinalToDate (n + 1) = (n400 * 400 + 1 + n100 * 100 + n4 * 4 + n1,
          monthDay (n1 = 3 ∧ (n4 ≠ 24 ∨ n100 = 3)) r))) := by
  refine ⟨n / 146097, n % 146097 / 36524, n % 146097 % 36524 / 1461,
    n % 146097 % 36524 % 1461 / 365, n % 146097 % 36524 % 1461 % 365, by omega, by omega, by omega,
    ?_⟩
  by_cases hlast : n % 146097 % 36524 % 1461 / 365 = 4 ∨ n % 146097 / 36524 = 4
  · refine .inl ⟨by omega, ?_⟩
    simp only [ordinalToDate, Nat.add_sub_cancel, hlast, if_true, Prod.mk.injEq, and_true]
    omega
  · refine .inr ⟨by omega, by omega, ?_⟩
    simp only [ordinalToDate, Nat.add_sub_cancel, hlast, if_false, monthDay]
    split_ifs <;> rfl

theorem isLeap_last (n400 n100 n4 n1 : ℕ) (h100 : n100 ≤ 3) (h4 : n4 ≤ 24) (h1 : n1 ≤ 3) :
    isLeap (n400 * 400 + 1 + n100 * 100 + n4 * 4 + n1) =
      (n1 = 3 ∧ (n4 ≠ 24 ∨ n100 = 3) : Bool) := by
  unfold isLeap
  refine decide_eq_decide.mpr ?_
  omega

/-- The date of a day determines the day. -/
theorem dateToOrdinal_ordinalToDate (n : ℕ) : dateToOrdinal (ordinalToDate (n + 1)) = n + 1 := by
  obtain ⟨n400, n100, n4, n1, r, rfl, h4, hr, h⟩ := ordinalToDate_cases n
  rcases h with ⟨hend, hdate⟩ | ⟨h100, h1, hdate⟩
  · rw [hdate]
    -- the last day of a leap year
    have hleap : isLeap (n400 * 400 + n100 * 100 + n4 * 4 + n1) = true := by
      simp only [isLeap, decide_eq_true_eq]
      omega
    simp only [dateToOrdinal, hleap, daysBeforeYear, dayOfYear]
    norm_num [daysBeforeMonth]
    omega
  · rw [hdate]
    simp only [dateToOrdinal, isLeap_last n400 n100 n4 n1 h100 h4 h1]
    rw [(dayOfYear_monthDay _ r hr).1]
    simp only [daysBeforeYear]
    omega

/-- Every field of a date in the supported years has its width. -/
theorem ordinalToDate_lt (n : ℕ) (h : n < maxOrdinal) :
    (ordinalToDate (n + 1)).1 < 10 ^ 4 ∧ (ordinalToDate (n + 1)).2.1 < 10 ^ 2 ∧
      (ordinalToDate (n + 1)).2.2 < 10 ^ 2 := by
  obtain ⟨n400, n100, n4, n1, r, rfl, h4, hr, hcases⟩ := ordinalToDate_cases n
  unfold maxOrdinal at h
  rcases hcases with ⟨hend, hdate⟩ | ⟨h100, h1, hdate⟩
  · rw [hdate]
    dsimp only
    omega
  · have hyear : n400 * 400 + 1 + n100 * 100 + n4 * 4 + n1 < 10 ^ 4 := by
      have h400 : n400 < 25 := by linarith
      by_contra hge
      have hlast : n400 = 24 ∧ n100 = 3 ∧ n4 = 24 ∧ n1 = 3 := by omega
      obtain ⟨rfl, rfl, rfl, rfl⟩ := hlast
      omega
    rw [hdate]
    exact ⟨hyear, (dayOfYear_monthDay _ r hr).2⟩

end Calendar

/-- Different UTC timestamps have different texts. -/
theorem isoformatUtc_wall_injective {d u : DateTime} (h : isoformatUtc d = isoformatUtc u) :
    d.wall = u.wall := by
  have hday (d : DateTime) : d.wall / daySize < maxOrdinal :=
    Nat.div_lt_of_lt_mul (by rw [Nat.mul_comm]; exact d.wall_lt)
  obtain ⟨hyear, hmonth, hdate⟩ := ordinalToDate_lt _ (hday d)
  obtain ⟨hyear', hmonth', hdate'⟩ := ordinalToDate_lt _ (hday u)
  have htime : d.wall % daySize < 86400000000 := Nat.mod_lt _ (by decide)
  have htime' : u.wall % daySize < 86400000000 := Nat.mod_lt _ (by decide)
  simp only [isoformatUtc, List.append_assoc] at h
  obtain ⟨hy, h⟩ := padded_append_inj hyear hyear' h
  obtain ⟨hm, h⟩ := padded_append_inj hmonth hmonth' (List.append_cancel_left h)
  obtain ⟨hd, h⟩ := padded_append_inj hdate hdate' (List.append_cancel_left h)
  obtain ⟨hhour, h⟩ := padded_append_inj (by omega) (by omega) (List.append_cancel_left h)
  obtain ⟨hminute, h⟩ := padded_append_inj (by omega) (by omega) (List.append_cancel_left h)
  obtain ⟨hsecond, h⟩ := padded_append_inj (by omega) (by omega) (List.append_cancel_left h)
  obtain ⟨hmicro, -⟩ := padded_append_inj (by omega) (by omega) (List.append_cancel_left h)
  have hordinal := dateToOrdinal_ordinalToDate (d.wall / daySize)
  rw [Prod.ext hy (Prod.ext hm hd), dateToOrdinal_ordinalToDate] at hordinal
  have hsplit := Nat.div_add_mod d.wall daySize
  have hsplit' := Nat.div_add_mod u.wall daySize
  unfold daySize at *
  omega

theorem isoformatUtc_injective {d u : DateTime} (hd : d.tzinfo = some .utc)
    (hu : u.tzinfo = some .utc) (h : isoformatUtc d = isoformatUtc u) : d = u := by
  have hwall := isoformatUtc_wall_injective h
  have hoffset := d.offset_utc hd
  have hoffset' := u.offset_utc hu
  cases d
  cases u
  simp_all

theorem padded_encodable (width n : ℕ) : encodable (padded width n) = true := by
  induction width generalizing n with
  | zero => rfl
  | succ width ih =>
    have hdigit : ∀ d < 10, isSurrogate (digit d) = false := by decide
    simp [padded, ih, hdigit (n % 10) (Nat.mod_lt n (by omega))]

theorem isoformatUtc_encodable (d : DateTime) : encodable (isoformatUtc d) = true := by
  have hdash : encodable (py "-") = true := by decide
  have hcolon : encodable (py ":") = true := by decide
  have hpoint : encodable (py ".") = true := by decide
  have hmarks : encodable (py "T") = true ∧ encodable (py "Z") = true := by decide
  simp only [isoformatUtc, encodable_append, padded_encodable, hdash, hcolon, hpoint, hmarks.1,
    hmarks.2, Bool.and_self]

end PamMvp.TimestampTexts
