import PamMvp.PythonText
import Mathlib.Algebra.Order.Ring.Cast
import Mathlib.Algebra.Order.Ring.Rat
import Mathlib.Data.List.Sort
import Mathlib.Data.Prod.Lex
import Mathlib.Order.WithBot

/-!
# SQLite values, their order, and their Python counterparts

A stored value is one of five storage classes, and SQLite orders all of them:
NULL first, then numbers by value, then texts and then blobs bytewise. Binding a
Python value can fail, and so can reading a text whose bytes are no UTF-8.
-/
namespace PamMvp.SqliteValues
open PythonText

/-- A REAL that is not NaN; SQLite stores NaN as NULL. -/
abbrev SqlReal : Type := WithBot (WithTop ℚ)

inductive SqlValue where
  | null
  | integer (i : ℤ)
  | real (r : SqlReal)
  | text (utf8 : Bytes)
  | blob (data : Bytes)
  deriving DecidableEq

/-- The Python objects that the `sqlite3` module maps to and from values. -/
inductive PyValue where
  | none
  | int (i : ℤ)
  | float (r : SqlReal)
  | str (s : PyStr)
  | bytes (data : Bytes)
  deriving DecidableEq

/-- Errors of binding a parameter; neither is a `sqlite3.Error`. -/
inductive BindError where
  | overflow
  | unicodeEncode
  deriving DecidableEq

/-- Integers are stored in eight bytes. -/
def isInt64 (i : ℤ) : Bool := -2 ^ 63 ≤ i && i < 2 ^ 63

def PyValue.bind : PyValue → Except BindError SqlValue
  | .none => .ok .null
  | .int i => if isInt64 i then .ok (.integer i) else .error .overflow
  | .float r => .ok (.real r)
  | .str s => match encodeUtf8 s with
    | some data => .ok (.text data)
    | Option.none => .error .unicodeEncode
  | .bytes data => .ok (.blob data)

/-- The Python object for a stored value; no object is an `OperationalError`. -/
def SqlValue.fetch : SqlValue → Option PyValue
  | .null => some .none
  | .integer i => some (.int i)
  | .real r => some (.float r)
  | .text data => (decodeUtf8 data).map .str
  | .blob data => some (.bytes data)

theorem PyValue.bind_str {s : PyStr} (hs : encodable s = true) :
    (PyValue.str s).bind = .ok (.text (utf8 s)) := by
  simp [bind, encodeUtf8, hs]

theorem PyValue.bind_str_error {s : PyStr} (hs : encodable s = false) :
    (PyValue.str s).bind = .error .unicodeEncode := by
  simp [bind, encodeUtf8, hs]

/-- The value that holds an object. -/
def PyValue.stored : PyValue → SqlValue
  | .none => .null
  | .int i => .integer i
  | .float r => .real r
  | .str s => .text (utf8 s)
  | .bytes data => .blob data

/-- Texts must have a UTF-8 encoding. -/
def PyValue.encodes : PyValue → Bool
  | .str s => encodable s
  | _ => true

def PyValue.fits : PyValue → Bool
  | .int i => isInt64 i
  | _ => true

@[simp] theorem PyValue.encodes_str (s : PyStr) : (PyValue.str s).encodes = encodable s := rfl

@[simp] theorem PyValue.fits_str (s : PyStr) : (PyValue.str s).fits = true := rfl

theorem PyValue.bind_ok_iff (v : PyValue) (w : SqlValue) :
    v.bind = .ok w ↔ v.fits = true ∧ v.encodes = true ∧ w = v.stored := by
  cases v with
  | int i => cases hi : isInt64 i <;> simp [bind, fits, encodes, stored, hi, eq_comm]
  | str s =>
    cases hs : encodable s with
    | true => simp [bind_str hs, fits, encodes, stored, hs, eq_comm]
    | false => simp [bind_str_error hs, encodes, hs]
  | none => simp [bind, fits, encodes, stored, eq_comm]
  | float r => simp [bind, fits, encodes, stored, eq_comm]
  | bytes data => simp [bind, fits, encodes, stored, eq_comm]

theorem SqlValue.fetch_eq_some_iff (w : SqlValue) (v : PyValue) :
    w.fetch = some v ↔ v.encodes = true ∧ w = v.stored := by
  constructor
  · intro h
    cases w with
    | text data =>
      obtain ⟨s, hs, rfl⟩ := Option.map_eq_some_iff.mp h
      have hencode := (decodeUtf8_eq_some_iff data s).mp hs
      unfold encodeUtf8 at hencode
      split at hencode
      · rename_i henc
        cases hencode
        exact ⟨henc, rfl⟩
      · cases hencode
    | null =>
      cases h
      exact ⟨rfl, rfl⟩
    | integer i =>
      cases h
      exact ⟨rfl, rfl⟩
    | real r =>
      cases h
      exact ⟨rfl, rfl⟩
    | blob data =>
      cases h
      exact ⟨rfl, rfl⟩
  · intro h
    obtain ⟨hv, rfl⟩ := h
    cases v with
    | str s => simp [PyValue.stored, fetch, decodeUtf8_utf8 s hv]
    | none => rfl
    | int i => rfl
    | float r => rfl
    | bytes data => rfl

/-- The values of a row are read together or not at all. -/
theorem fetch_values_iff (row : List SqlValue) (values : List PyValue) :
    row.mapM SqlValue.fetch = some values ↔
      (∀ v ∈ values, v.encodes = true) ∧ row = values.map PyValue.stored := by
  induction row generalizing values with
  | nil =>
    cases values with
    | nil => simp
    | cons v values => simp
  | cons w row ih =>
    simp only [List.mapM_cons, Option.bind_eq_bind, Option.bind_eq_some_iff, Option.pure_def,
      Option.some.injEq, SqlValue.fetch_eq_some_iff]
    constructor
    · intro h
      obtain ⟨v, ⟨hv, rfl⟩, rest, hrest, rfl⟩ := h
      obtain ⟨hall, rfl⟩ := (ih rest).mp hrest
      exact ⟨by simpa [hv] using hall, rfl⟩
    · intro h
      obtain ⟨hall, hrow⟩ := h
      cases values with
      | nil => cases hrow
      | cons v values =>
        obtain ⟨rfl, rfl⟩ := List.cons.inj hrow
        refine ⟨v, ⟨hall v (List.mem_cons_self ..), rfl⟩, values, ?_, rfl⟩
        exact (ih values).mpr ⟨fun x hx => hall x (List.mem_cons_of_mem v hx), rfl⟩

section Order

/-- Storage class, number and bytes of a value, in the order of their weight. -/
def SqlValue.sortKey : SqlValue → ℕ ×ₗ SqlReal ×ₗ List ℕ
  | .null => toLex (0, toLex (⊥, []))
  | .integer i => toLex (1, toLex (WithBot.some (WithTop.some (i : ℚ)), []))
  | .real r => toLex (1, toLex (r, []))
  | .text data => toLex (2, toLex (⊥, data.map UInt8.toNat))
  | .blob data => toLex (3, toLex (⊥, data.map UInt8.toNat))

instance : Preorder SqlValue := Preorder.lift SqlValue.sortKey

instance : DecidableLE SqlValue := fun a b => inferInstanceAs (Decidable (a.sortKey ≤ b.sortKey))

theorem SqlValue.le_iff (a b : SqlValue) : a ≤ b ↔ a.sortKey ≤ b.sortKey := Iff.rfl

instance : Std.Total (α := SqlValue) (· ≤ ·) := ⟨fun a b => le_total a.sortKey b.sortKey⟩

@[simp] theorem integer_le_integer (i j : ℤ) :
    SqlValue.integer i ≤ .integer j ↔ i ≤ j := by
  have hcast : (WithBot.some (WithTop.some (i : ℚ)) : SqlReal) <
      WithBot.some (WithTop.some (j : ℚ)) ↔ i < j := by
    rw [WithBot.coe_lt_coe, WithTop.coe_lt_coe, Int.cast_lt]
  simp only [SqlValue.le_iff, SqlValue.sortKey, Prod.Lex.toLex_le_toLex, lt_irrefl, false_or,
    true_and, hcast, le_refl, and_true]
  simp [le_iff_lt_or_eq]

theorem bytes_lt_iff (a b : Bytes) : a.map UInt8.toNat < b.map UInt8.toNat ↔ a < b := by
  induction a generalizing b with
  | nil =>
    cases b with
    | nil => simp
    | cons y b => simp
  | cons x a ih =>
    cases b with
    | nil => simp
    | cons y b =>
      simp only [List.map_cons, List.cons_lt_cons_iff, ih, UInt8.lt_iff_toNat_lt, UInt8.toNat_inj]

/-- Texts are ordered by code point. -/
theorem text_le_text (s t : PyStr) : SqlValue.text (utf8 s) ≤ .text (utf8 t) ↔ s ≤ t := by
  have hkey : SqlValue.text (utf8 s) ≤ .text (utf8 t) ↔
      (utf8 s).map UInt8.toNat ≤ (utf8 t).map UInt8.toNat := by
    simp [SqlValue.le_iff, SqlValue.sortKey, Prod.Lex.toLex_le_toLex]
  rw [hkey, ← not_lt, ← not_lt, bytes_lt_iff, utf8_lt_iff]

/-- `ORDER BY` one column. -/
def orderBy {ρ : Type} (column : ρ → SqlValue) (rows : List ρ) : List ρ :=
  rows.insertionSort fun a b => column a ≤ column b

variable {ρ : Type} {column : ρ → SqlValue}

theorem orderBy_perm (rows : List ρ) : (orderBy column rows).Perm rows :=
  List.perm_insertionSort _ rows

theorem mem_orderBy {rows : List ρ} {row : ρ} : row ∈ orderBy column rows ↔ row ∈ rows :=
  (orderBy_perm rows).mem_iff

theorem orderBy_pairwise (rows : List ρ) :
    (orderBy column rows).Pairwise fun a b => column a ≤ column b := by
  have htotal : Std.Total fun a b : ρ => column a ≤ column b :=
    ⟨fun a b => Std.Total.total (column a) (column b)⟩
  have htrans : IsTrans ρ fun a b => column a ≤ column b := ⟨fun _ _ _ => le_trans⟩
  exact List.pairwise_insertionSort _ rows

theorem orderBy_of_pairwise {rows : List ρ} (h : rows.Pairwise fun a b => column a ≤ column b) :
    orderBy column rows = rows :=
  List.Pairwise.insertionSort_eq h

/-- A row that is not below any other one comes last. -/
theorem orderBy_append_last {rows : List ρ} {row : ρ} (h : ∀ r ∈ rows, column r ≤ column row) :
    orderBy column (rows ++ [row]) = orderBy column rows ++ [row] := by
  have hinsert (l : List ρ) (r : ρ) (hr : column r ≤ column row) :
      (l ++ [row]).orderedInsert (fun a b => column a ≤ column b) r =
        l.orderedInsert (fun a b => column a ≤ column b) r ++ [row] := by
    induction l with
    | nil => simp [hr]
    | cons x l ih =>
      by_cases hx : column r ≤ column x
      · simp [hx]
      · simp [hx, ih]
  induction rows with
  | nil => rfl
  | cons r rows ih =>
    have hrest := ih fun x hx => h x (List.mem_cons_of_mem r hx)
    simp only [orderBy, List.cons_append, List.insertionSort_cons] at hrest ⊢
    rw [hrest, hinsert _ r (h r (List.mem_cons_self ..))]

/-- Tables with the same rows are read in the same order when the column tells
their rows apart. -/
theorem orderBy_eq_of_perm {rows rows' : List ρ} (h : rows.Perm rows')
    (hinj : ∀ a ∈ rows, ∀ b ∈ rows, column a ≤ column b → column b ≤ column a → a = b) :
    orderBy column rows = orderBy column rows' := by
  refine List.Perm.eq_of_pairwise (fun a b ha hb hab hba => ?_) (orderBy_pairwise rows)
    (orderBy_pairwise rows') (((orderBy_perm rows).trans h).trans (orderBy_perm rows').symm)
  exact hinj a (mem_orderBy.mp ha) b (h.mem_iff.mpr (mem_orderBy.mp hb)) hab hba

end Order

end PamMvp.SqliteValues
