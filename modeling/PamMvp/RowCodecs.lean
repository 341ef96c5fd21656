import PamMvp.SqliteParameters

/-!
# Rows and the objects they stand for

An adapter writes an object as a tuple of parameters and reads a row back as an
object. Reading is exact when it inverts writing: a row is read as an object only if
the object is written as that row, and every other row is refused by one error.
-/
namespace PamMvp.RowCodecs
open PythonText DomainModel SqliteValues SqliteParameters

variable {α : Type}

/-- The stored row of an object: serialised, and then bound parameter by parameter. -/
def write (serialize : α → Except PyExn (List PyValue)) (a : α) : Except PyExn (List SqlValue) := do
  let row ← serialize a
  row.mapM bindParameter

/-- The reader accepts exactly the image of the writer. -/
structure DecodesExactly (serialize : α → Except PyExn (List PyValue))
    (deserialize : List PyValue → Except PyExn α) (malformed : PyExn) : Prop where
  image : ∀ row a, deserialize row = .ok a ↔ serialize a = .ok row
  refusal : ∀ row e, deserialize row = .error e → e = malformed
  stored : ∀ sqlRow row, fetchTuple sqlRow = .ok row →
    ∀ a, deserialize row = .ok a ↔ write serialize a = .ok sqlRow

theorem mapM_bindParameter_ok_iff (row : List PyValue) (sqlRow : List SqlValue) :
    row.mapM bindParameter = .ok sqlRow ↔
      (∀ v ∈ row, v.fits = true ∧ v.encodes = true) ∧ sqlRow = row.map PyValue.stored := by
  induction row generalizing sqlRow with
  | nil =>
    constructor
    · intro h
      cases h
      exact ⟨by simp, rfl⟩
    · intro h
      obtain ⟨-, rfl⟩ := h
      rfl
  | cons v row ih =>
    simp only [List.mapM_cons, except_bind_ok_iff, bindParameter_ok_iff, ih, pure, Except.pure,
      Except.ok.injEq, List.forall_mem_cons, List.map_cons]
    constructor
    · intro h
      obtain ⟨_, ⟨hfits, hencodes, rfl⟩, _, ⟨hrow, rfl⟩, rfl⟩ := h
      exact ⟨⟨⟨hfits, hencodes⟩, hrow⟩, rfl⟩
    · intro h
      obtain ⟨⟨⟨hfits, hencodes⟩, hrow⟩, rfl⟩ := h
      exact ⟨_, ⟨hfits, hencodes, rfl⟩, _, ⟨hrow, rfl⟩, rfl⟩

/-- Values that can be told apart after they were stored. -/
theorem stored_injective {row row' : List PyValue} (h : ∀ v ∈ row, v.encodes = true)
    (h' : ∀ v ∈ row', v.encodes = true) (heq : row.map PyValue.stored = row'.map PyValue.stored) :
    row = row' := by
  have hrow := (fetchTuple_ok_iff _ row).mpr ⟨h, rfl⟩
  rw [(fetchTuple_ok_iff _ row').mpr ⟨h', heq⟩] at hrow
  exact (Except.ok.inj hrow).symm

/-- It is enough that reading inverts writing on tuples, when the integers fit. -/
theorem DecodesExactly.of_image {serialize : α → Except PyExn (List PyValue)}
    {deserialize : List PyValue → Except PyExn α} {malformed : PyExn}
    (image : ∀ row a, deserialize row = .ok a ↔ serialize a = .ok row)
    (refusal : ∀ row e, deserialize row = .error e → e = malformed)
    (fits : ∀ a row, serialize a = .ok row → ∀ v ∈ row, v.fits = true) :
    DecodesExactly serialize deserialize malformed where
  image := image
  refusal := refusal
  stored := by
    intro sqlRow row hfetch a
    obtain ⟨hencodes, rfl⟩ := (fetchTuple_ok_iff sqlRow row).mp hfetch
    rw [image]
    simp only [write, except_bind_ok_iff, mapM_bindParameter_ok_iff]
    constructor
    · intro h
      exact ⟨row, h, fun v hv => ⟨fits a row h v hv, hencodes v hv⟩, rfl⟩
    · intro h
      obtain ⟨row', hserialize, hall, hrow⟩ := h
      rw [stored_injective hencodes (fun v hv => (hall v hv).2) hrow]
      exact hserialize

/-- What is written is read back. -/
theorem DecodesExactly.load {serialize : α → Except PyExn (List PyValue)}
    {deserialize : List PyValue → Except PyExn α} {malformed : PyExn}
    (h : DecodesExactly serialize deserialize malformed) {a : α} {sqlRow : List SqlValue}
    (hwrite : write serialize a = .ok sqlRow) :
    ∃ row, fetchTuple sqlRow = .ok row ∧ deserialize row = .ok a := by
  simp only [write, except_bind_ok_iff, mapM_bindParameter_ok_iff] at hwrite
  obtain ⟨row, hserialize, hall, rfl⟩ := hwrite
  exact ⟨row, (fetchTuple_ok_iff _ row).mpr ⟨fun v hv => (hall v hv).2, rfl⟩,
    (h.image row a).mpr hserialize⟩

end PamMvp.RowCodecs
