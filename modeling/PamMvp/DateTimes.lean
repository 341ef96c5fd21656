import PamMvp.PythonText

/-!
# Python datetimes to the microsecond

A `datetime` is a wall-clock reading in the years 1 to 9999, with its zone and the
UTC offset that the zone gives it when it is aware. Two values of one zone are
ordered by their wall clocks, whatever their offsets; values of two zones by their
instants; a naive and an aware value of two zones cannot be compared.
-/
namespace PamMvp.DateTimes
open PythonText

def daySize : ℕ := 86400000000

/-- `date.max.toordinal()`. -/
def maxOrdinal : ℕ := 3652059

/-- A `tzinfo` object: `timezone.utc` or another one, known by its identity. -/
inductive Zone where
  | utc
  | other (id : ℕ)
  deriving DecidableEq

structure DateTime where
  /-- Microseconds of the wall clock since 0001-01-01 00:00. -/
  wall : ℕ
  tzinfo : Option Zone
  /-- `utcoffset()` in microseconds, with `fold` taken into account; `none` is a naive value. -/
  offset : Option ℤ
  wall_lt : wall < maxOrdinal * daySize
  offset_lt : ∀ o ∈ offset, -(daySize : ℤ) < o ∧ o < daySize
  offset_none : tzinfo = none → offset = none
  offset_utc : tzinfo = some .utc → offset = some 0
  deriving DecidableEq

theorem utcOffset_lt : ∀ o ∈ some (0 : ℤ), -(daySize : ℤ) < o ∧ o < daySize := by
  simp [daySize]

theorem yearOne_lt : 0 < maxOrdinal * daySize := by decide

theorem firstSecond_lt : 1000000 < maxOrdinal * daySize := by decide

theorem newYear2025_lt : 63871286400000000 < maxOrdinal * daySize := by decide

namespace DateTime

/-- A reading of a clock that shows UTC. -/
def utc (wall : ℕ) (h : wall < maxOrdinal * daySize) : DateTime where
  wall := wall
  tzinfo := some .utc
  offset := some 0
  wall_lt := h
  offset_lt := utcOffset_lt
  offset_none h := by cases h
  offset_utc _ := rfl

def aware (d : DateTime) : Bool := d.offset.isSome

/-- Microseconds since 0001-01-01 00:00 UTC. -/
def instant (d : DateTime) : ℤ := d.wall - d.offset.getD 0

/-- `a < b`; `none` is the `TypeError` for a naive and an aware operand. -/
def lt? (a b : DateTime) : Option Bool :=
  -- one `tzinfo` object, or one offset: the wall clocks are compared as they are
  if a.tzinfo = b.tzinfo ∨ a.offset = b.offset then some (decide (a.wall < b.wall))
  else if a.aware ∧ b.aware then some (decide (a.instant < b.instant))
  else none

/-- `a.astimezone(UTC)` of an aware value; `none` is `OverflowError`. -/
def toUtc (d : DateTime) : Option DateTime :=
  if h : 0 ≤ d.instant ∧ d.instant < maxOrdinal * daySize then
    some (utc d.instant.toNat (by omega))
  else none

theorem toUtc_instant {d u : DateTime} (h : d.toUtc = some u) :
    u.tzinfo = some .utc ∧ u.instant = d.instant := by
  unfold toUtc at h
  split_ifs at h with hd
  cases h
  refine ⟨rfl, ?_⟩
  have hn := Int.toNat_of_nonneg hd.1
  simpa [instant, utc] using hn

/-- No value is before itself. -/
@[simp] theorem lt?_self (d : DateTime) : d.lt? d = some false := by simp [lt?]

/-- Aware values can be compared. -/
theorem lt?_aware {a b : DateTime} (ha : a.aware = true) (hb : b.aware = true) :
    ∃ r, a.lt? b = some r := by
  unfold lt?
  split_ifs with hsame haware
  · exact ⟨_, rfl⟩
  · exact ⟨_, rfl⟩
  · exact absurd ⟨ha, hb⟩ haware

/-- The wall clocks decide between two values of one zone. -/
theorem lt?_of_tzinfo {a b : DateTime} (h : a.tzinfo = b.tzinfo) :
    a.lt? b = some (decide (a.wall < b.wall)) := if_pos (.inl h)

/-- Between aware values the instants decide, except where one zone has two offsets. -/
theorem lt?_of_offset {a b : DateTime} (ha : a.aware = true) (hb : b.aware = true)
    (h : a.tzinfo = b.tzinfo → a.offset = b.offset) :
    a.lt? b = some (decide (a.instant < b.instant)) := by
  unfold lt?
  by_cases ho : a.offset = b.offset
  · simp [ho, instant]
  · rw [if_neg (by tauto), if_pos ⟨ha, hb⟩]

/-- A clock that is set back: 02:30 summer time is not before 02:10 winter time of one zone. -/
example :
    let summer : DateTime := ⟨daySize + 9000000000, some (.other 0), some 7200000000, by decide,
      by decide, by simp, by simp⟩
    let winter : DateTime := ⟨daySize + 7800000000, some (.other 0), some 3600000000, by decide,
      by decide, by simp, by simp⟩
    summer.lt? winter = some false ∧ summer.instant < winter.instant := by decide

end DateTime

def daysBeforeMonth : List ℕ := [0, 0, 31, 59, 90, 120, 151, 181, 212, 243, 273, 304, 334]

def daysInMonth : List ℕ := [0, 31, 28, 31, 30, 31, 30, 31, 31, 30, 31, 30, 31]

/-- Year, month and day of a proleptic Gregorian ordinal, counted from one. -/
def ordinalToDate (ordinal : ℕ) : ℕ × ℕ × ℕ :=
  let n := ordinal - 1
  let n400 := n / 146097
  let n := n % 146097
  let n100 := n / 36524
  let n := n % 36524
  let n4 := n / 1461
  let n := n % 1461
  let n1 := n / 365
  let n := n % 365
  let year := n400 * 400 + 1 + n100 * 100 + n4 * 4 + n1
  if n1 = 4 ∨ n100 = 4 then (year - 1, 12, 31)
  else
    let leap : Bool := n1 = 3 ∧ (n4 ≠ 24 ∨ n100 = 3)
    let month := (n + 50) / 32
    let preceding := daysBeforeMonth.getD month 0 + if 2 < month ∧ leap then 1 else 0
    if n < preceding then
      let earlier := preceding -
        (daysInMonth.getD (month - 1) 0 + if month - 1 = 2 ∧ leap then 1 else 0)
      (year, month - 1, n - earlier + 1)
    else (year, month, n - preceding + 1)

/-- The decimal digit `d`. -/
def digit (d : ℕ) : CodePoint := Fin.ofNat _ (48 + d)

/-- `n` in decimal, filled with zeros up to `width` digits. -/
def padded : ℕ → ℕ → PyStr
  | 0, _ => []
  | width + 1, n => padded width (n / 10) ++ [digit (n % 10)]

/-- `d.isoformat(timespec="microseconds").replace("+00:00", "Z")` of a UTC value. -/
def isoformatUtc (d : DateTime) : PyStr :=
  let date := ordinalToDate (d.wall / daySize + 1)
  let time := d.wall % daySize
  padded 4 date.1 ++ py "-" ++ padded 2 date.2.1 ++ py "-" ++ padded 2 date.2.2 ++ py "T" ++
    padded 2 (time / 3600000000) ++ py ":" ++ padded 2 (time / 60000000 % 60) ++ py ":" ++
    padded 2 (time / 1000000 % 60) ++ py "." ++ padded 6 (time % 1000000) ++ py "Z"

example : isoformatUtc (.utc 63871286399999999 (by decide)) =
    py "2024-12-31T23:59:59.999999Z" := by decide

end PamMvp.DateTimes
