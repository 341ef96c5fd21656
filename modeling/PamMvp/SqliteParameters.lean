import PamMvp.DomainModel
import PamMvp.SqliteValues

/-!
# Parameters and rows of the repositories

Binding a parameter raises an exception that is no `sqlite3.Error`. Fetching a
row raises an `OperationalError` when one of its texts is no UTF-8.
-/
namespace PamMvp.SqliteParameters
open PythonText DomainModel SqliteValues

/-- The exception for a parameter that cannot be bound. -/
def bindExn : BindError → PyExn
  | .overflow => raised .overflowError (py "Python int too large to convert to SQLite INTEGER")
  | .unicodeEncode => raised .unicodeEncodeError (py "surrogates not allowed")

def bindParameter (v : PyValue) : Except PyExn SqlValue := v.bind.mapError bindExn

def undecodableText : PyExn := raised .sqliteError (py "Could not decode to UTF-8 column")

/-- One row as the cursor hands it out. -/
def fetchTuple (row : List SqlValue) : Except PyExn (List PyValue) :=
  match row.mapM SqlValue.fetch with
  | some values => .ok values
  | none => .error undecodableText

theorem bindParameter_ok_iff (v : PyValue) (w : SqlValue) :
    bindParameter v = .ok w ↔ v.fits = true ∧ v.encodes = true ∧ w = v.stored := by
  rw [← PyValue.bind_ok_iff, bindParameter]
  cases v.bind <;> simp [Except.mapError]

theorem bindParameter_str (s : PyStr) : bindParameter (.str s) =
    if encodable s then .ok (.text (utf8 s)) else .error (bindExn .unicodeEncode) := by
  cases hs : encodable s with
  | true => simp [bindParameter, PyValue.bind_str hs, Except.mapError]
  | false => simp [bindParameter, PyValue.bind_str_error hs, Except.mapError]

theorem bindParameter_str_ok_iff (s : PyStr) (v : SqlValue) :
    bindParameter (.str s) = .ok v ↔ encodable s = true ∧ .text (utf8 s) = v := by
  rw [bindParameter_str]
  cases encodable s <;> simp

theorem fetchTuple_ok_iff (row : List SqlValue) (values : List PyValue) :
    fetchTuple row = .ok values ↔
      (∀ v ∈ values, v.encodes = true) ∧ row = values.map PyValue.stored := by
  rw [← fetch_values_iff, fetchTuple]
  cases row.mapM SqlValue.fetch <;> simp

end PamMvp.SqliteParameters
