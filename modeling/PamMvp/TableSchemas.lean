import PamMvp.DomainModel

/-!
# Table definitions

`PRAGMA table_info` lists the columns of a table. A repository accepts a table whose
list, with the types in capitals, is the definition that it expects.
-/
namespace PamMvp.TableSchemas
open PythonText DomainModel

/-- A row of `PRAGMA table_info`; `primaryKey` is the position in the key, from one. -/
structure Column where
  name : PyStr
  declaredType : PyStr
  notNull : Bool
  defaultValue : Option PyStr
  primaryKey : ℕ
  deriving DecidableEq

/-- `str.upper` of one character, exact where the image is ASCII: a character that is
not listed has no ASCII image and stands for itself. -/
def upperChar (c : CodePoint) : PyStr :=
  if 0x61 ≤ c ∧ c ≤ 0x7A then [c - 0x20]
  else if c = 0x131 then py "I"
  else if c = 0x17F then py "S"
  else if c = 0xDF then py "SS"
  else if c = 0xFB00 then py "FF"
  else if c = 0xFB01 then py "FI"
  else if c = 0xFB02 then py "FL"
  else if c = 0xFB03 then py "FFI"
  else if c = 0xFB04 then py "FFL"
  else if c = 0xFB05 ∨ c = 0xFB06 then py "ST"
  else [c]

/-- `text.upper()`, exact for a comparison with an ASCII text. -/
def upper (text : PyStr) : PyStr := text.flatMap upperChar

/-- The entry that `_initialize_schema` compares. -/
def Column.entry (column : Column) : Column :=
  { column with declaredType := upper column.declaredType }

/-- A column of the statements and definitions of the repositories. -/
def column (name declaredType : String) (notNull : Bool) (primaryKey : ℕ) : Column :=
  ⟨py name, py declaredType, notNull, none, primaryKey⟩

/-- A table with its columns. -/
structure Table (ρ : Type) where
  columns : List Column
  rows : List ρ

/-- The `definition` that the code reads. -/
def Table.definition {ρ : Type} (table : Table ρ) : List Column := table.columns.map Column.entry

/-- Nothing to read without a table. -/
def rowsOf {ρ : Type} (table : Option (Table ρ)) : List ρ := (table.map Table.rows).getD []

end PamMvp.TableSchemas
