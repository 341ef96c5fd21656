import PamMvp.AuditVerification

/-!
# Appending to a tampered log

`append` trusts the last row alone, while verification walks the whole table.
Whatever the table holds, a returning `append` adds one row that sorts last, and
verification accepts the new table exactly when it accepted the old one.
-/
namespace PamMvp.AppendNeutrality
open PythonText DateTimes DomainModel SqliteValues AuditEncoding AuditRepository AuditDatabase
open AuditVerification InteractionPrograms SharedPrograms

/-- A returning `append` on a database that nobody else uses. -/
def Appends (key : Bytes) (event : AppendArgument) (table table' : List AuditRow) : Prop :=
  ∃ db : AuditDb Unit, RunsOn (Serves key ()) (append event) ⟨table, none⟩ (.ret ()) db ∧
    db.committed = table'

/-- Tables reached by calls of `append`, some of which may have raised. -/
inductive AppendedTo (key : Bytes) (table : List AuditRow) : List AuditRow → Prop where
  | refl : AppendedTo key table table
  | call {table' : List AuditRow} {event : AppendArgument} {o : Outcome auditSignature Unit}
      {db : AuditDb Unit} (h : AppendedTo key table table')
      (hrun : RunsOn (Serves key ()) (append event) ⟨table', none⟩ o db) :
      AppendedTo key table db.committed

section

variable {key : Bytes} {event : AppendArgument} {table table' : List AuditRow}

theorem Appends.nextRow (h : Appends key event table table') :
    ∃ row, NextRow key event table row ∧ table' = table ++ [row] := by
  obtain ⟨db, hrun, rfl⟩ := h
  rcases append_run hrun with ⟨-, row, hrow, hnew⟩ | ⟨⟨e, he⟩, -⟩
  · exact ⟨row, hrow, hnew⟩
  · cases he

theorem nextRow_accepts_iff {row : AuditRow} (h : NextRow key event table row) :
    Accepts key (table ++ [row]) ↔ Accepts key table := by
  rw [accepts_iff, accepts_iff, nextRow_genuine_iff h]

theorem AppendedTo.accepts_iff (h : AppendedTo key table table') :
    Accepts key table' ↔ Accepts key table := by
  induction h with
  | refl => exact Iff.rfl
  | call _ hrun ih =>
    rcases append_run hrun with ⟨-, row, hrow, hnew⟩ | ⟨-, hsame⟩
    · rw [hnew, nextRow_accepts_iff hrow, ih]
    · rw [hsame, ih]

/-- The number of the last row in order is the largest one, and 0 stands for no row. -/
def Largest (table : List AuditRow) (n : ℤ) : Prop :=
  (table = [] ∧ n = 0) ∨ ∃ last ∈ table, last.sequenceNo = .integer n ∧
    ∀ r ∈ table, r.sequenceNo ≤ last.sequenceNo

theorem linksTo_largest {n : ℤ} {d : Bytes} (h : LinksTo (ordered table) n d) :
    Largest table (n - 1) := by
  rcases h with ⟨hnil, rfl, -⟩ | ⟨last, hlast, hnumber, -, -, -⟩
  · have hperm : (ordered table).Perm table := orderBy_perm table
    rw [hnil] at hperm
    exact .inl ⟨hperm.nil_eq.symm, by omega⟩
  · have hmem : last ∈ ordered table := List.mem_of_getLast? hlast
    exact .inr ⟨last, mem_orderBy.mp hmem, hnumber, fun r hr => le_getLast hlast hr⟩

/-- `append` adds one row after all others and leaves the verdict of verification
as it was. So do all sequences of calls, returning or raising. -/
theorem append_neutral (h : Appends key event table table') :
    (∃ row n, table' = table ++ [row] ∧ row.sequenceNo = .integer (n + 1) ∧ Largest table n ∧
      (∀ r ∈ table, r.sequenceNo < row.sequenceNo) ∧
        ordered table' = ordered table ++ [row]) ∧
    (Accepts key table' ↔ Accepts key table) ∧
    ∀ key' before after, AppendedTo key' before after →
      (Accepts key' after ↔ Accepts key' before) := by
  obtain ⟨row, hrow, rfl⟩ := h.nextRow
  refine ⟨?_, nextRow_accepts_iff hrow, fun _ _ _ h => h.accepts_iff⟩
  obtain ⟨r, rfl, -, -, -, hlinks, -⟩ := nextRow_record hrow
  have hnumber : (recordRow r).sequenceNo = .integer (r.sequenceNo - 1 + 1) := by
    rw [sub_add_cancel]
    rfl
  refine ⟨recordRow r, r.sequenceNo - 1, rfl, hnumber, linksTo_largest hlinks, fun x hx => ?_,
    ordered_append hlinks⟩
  refine lt_of_le_of_lt (hlinks.lt hx) ?_
  rw [hnumber, lt_iff_le_not_ge, integer_le_integer, integer_le_integer]
  omega

end

section Example

def exampleKey : Bytes := (List.range 32).map UInt8.ofNat

def exampleEvent (id : PyStr) : AppendArgument :=
  .auditEvent ⟨.str id, .datetime (.utc 63871286400000000 newYear2025_lt),
    .eventType .accessAllowed, .str (py "alice"), .str (py "db"), .none, .str (py "allowed"), .none⟩

/-- The database after an `append` without failures. -/
def exampleAppend (id : PyStr) (table : List AuditRow) :
    Option (Outcome auditSignature Unit × AuditDb Unit) :=
  execOn (answer exampleKey ()) (append (exampleEvent id)) ⟨table, none⟩

def exampleRow (id : PyStr) (table : List AuditRow) : Option AuditRow :=
  match exampleAppend id table with
  | some (.ret _, db) => db.committed.getLast?
  | _ => none

theorem exampleRow_appends {id : PyStr} {table : List AuditRow} {row : AuditRow}
    (h : exampleRow id table = some row) :
    Appends exampleKey (exampleEvent id) table (table ++ [row]) := by
  unfold exampleRow at h
  split at h
  · rename_i u db heq
    have happend : Appends exampleKey (exampleEvent id) table db.committed :=
      ⟨db, runsOn_execOn (fun db c => .answered c) heq, rfl⟩
    obtain ⟨row', -, hnew⟩ := happend.nextRow
    rw [hnew, List.getLast?_concat] at h
    cases h
    rw [← hnew]
    exact happend
  · cases h

/-- A row with a negative number and a text for a MAC, and `append` on it. -/
def tamperedTable : List AuditRow :=
  [⟨.integer 7, .text [0x61], .null, .real 1, .null, .null, .null, .null, .null, .text [0x62],
      .blob (List.replicate 32 9)⟩,
    ⟨.integer (-3), .null, .null, .null, .null, .null, .null, .null, .null, .null, .null⟩]

def tamperedRow : AuditRow := (exampleRow (py "e-1") tamperedTable).get (by decide +kernel)

/-- No record has a row without a MAC. -/
theorem tamperedTable_rejected : ¬ Accepts exampleKey tamperedTable := by
  intro h
  obtain ⟨-, records, hrows, -⟩ := (accepts_iff tamperedTable).mp h
  have hlast : tamperedTable.getLast (by decide) ∈ records.map recordRow := by
    rw [← hrows]
    exact mem_orderBy.mpr (List.getLast_mem _)
  obtain ⟨r, -, hr⟩ := List.mem_map.mp hlast
  cases congrArg AuditColumns.eventMac hr

theorem emptyTable_accepted : Accepts exampleKey [] :=
  (accepts_iff []).mpr ⟨by decide, [], rfl, by simp, trivial⟩

def firstRow : AuditRow := (exampleRow (py "e-1") []).get (by decide +kernel)

def secondRow : AuditRow := (exampleRow (py "e-2") [firstRow]).get (by decide +kernel)

/-- A tampered table stays rejected, and a log stays accepted from its first row on. -/
theorem append_neutral_example :
    ¬ Accepts exampleKey (tamperedTable ++ [tamperedRow]) ∧
      Accepts exampleKey [firstRow, secondRow] := by
  have htampered : Appends exampleKey (exampleEvent (py "e-1")) tamperedTable
      (tamperedTable ++ [tamperedRow]) := exampleRow_appends (Option.some_get _).symm
  have hfirst : Appends exampleKey (exampleEvent (py "e-1")) [] [firstRow] :=
    exampleRow_appends (Option.some_get _).symm
  have hsecond : Appends exampleKey (exampleEvent (py "e-2")) [firstRow] [firstRow, secondRow] :=
    exampleRow_appends (Option.some_get _).symm
  constructor
  · rw [(append_neutral htampered).2.1]
    exact tamperedTable_rejected
  · rw [(append_neutral hsecond).2.1, (append_neutral hfirst).2.1]
    exact emptyTable_accepted

end Example

end PamMvp.AppendNeutrality
