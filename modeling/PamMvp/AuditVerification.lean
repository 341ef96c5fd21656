import PamMvp.AuditDatabase
import PamMvp.HashChains

/-!
# What verification accepts

`_verify_rows` accepts exactly the rows of a chain of authentic records, numbered
from one and starting at the genesis MAC. A returning `append` adds one record,
linked to the last row of the table in the order of sequence numbers, and an
`append` that raises adds nothing.
-/
namespace PamMvp.AuditVerification
open PythonText DomainModel SqliteValues SqliteParameters AuditEncoding AuditRepository
open AuditDatabase InteractionPrograms SharedPrograms HashChains

def auditChaining : Chaining ChainRecord Bytes :=
  ⟨ChainRecord.sequenceNo, ChainRecord.previousMac, ChainRecord.eventMac⟩

/-- The stored row of a record. -/
def recordRow (r : ChainRecord) : AuditRow := (recordColumns r).map PyValue.stored

/-- All texts of the record have a UTF-8 encoding. -/
def Encodes (r : ChainRecord) : Prop := ∀ v ∈ (recordColumns r).values, v.encodes = true

/-- The rows are those of a chain of authentic records. -/
def Genuine (key : Bytes) (rows : List AuditRow) : Prop :=
  ∃ records : List ChainRecord, rows = records.map recordRow ∧
    (∀ r ∈ records, Encodes r ∧ r.Authentic key) ∧ Chained auditChaining 1 genesisMac records

/-- `verify_integrity` can return on the table. -/
def Accepts (key : Bytes) (table : List AuditRow) : Prop :=
  ∃ db : AuditDb Unit, RunsOn (Serves key ()) verifyIntegrity ⟨table, none⟩ (.ret ()) db

section Verify

variable {key : Bytes}

theorem fetchTuple_record_iff (row : AuditRow) (r : ChainRecord) :
    fetchTuple row.values = .ok (recordColumns r).values ↔ Encodes r ∧ row = recordRow r := by
  rw [fetchTuple_ok_iff, ← AuditColumns.values_map]
  exact and_congr_right fun _ => AuditColumns.values_injective.eq_iff

theorem recordRow_injective {r s : ChainRecord} (hr : Encodes r) (hs : Encodes s)
    (h : recordRow r = recordRow s) : r = s := by
  have hfetch := (fetchTuple_record_iff (recordRow r) r).mpr ⟨hr, rfl⟩
  rw [(fetchTuple_record_iff (recordRow r) s).mpr ⟨hs, h⟩] at hfetch
  have hvalid := (validateStoredRow_ok_iff _ r).mpr rfl
  rw [← Except.ok.inj hfetch, (validateStoredRow_ok_iff _ s).mpr rfl] at hvalid
  exact (Except.ok.inj hvalid).symm

theorem authentic_iff (r : ChainRecord) :
    r.Authentic key ↔ ∃ canonical, canonicalEventBytes r.sequenceNo r.fields = .ok canonical ∧
      r.eventMac = calculateEventMac key canonical r.previousMac := by
  simp only [ChainRecord.Authentic, ChainRecord.message_ok_iff, calculateEventMac]
  constructor
  · intro h
    obtain ⟨_, ⟨canonical, hcanonical, rfl⟩, hmac⟩ := h
    exact ⟨canonical, hcanonical, hmac⟩
  · intro h
    obtain ⟨canonical, hcanonical, hmac⟩ := h
    exact ⟨_, ⟨canonical, hcanonical, rfl⟩, hmac⟩

/-- One round of the verification loop. -/
theorem verifyRows_cons_iff (n : ℤ) (d : Bytes) (next : Except PyExn (List PyValue))
    (rows : List (Except PyExn (List PyValue))) :
    verifyRows key n d (next :: rows) = .ok () ↔
      ∃ r : ChainRecord, next = .ok (recordColumns r).values ∧ r.sequenceNo = n ∧
        r.previousMac = d ∧ r.Authentic key ∧ verifyRows key (n + 1) r.eventMac rows = .ok () := by
  simp only [verifyRows, except_bind_ok_iff, validateStoredRow_ok_iff]
  constructor
  · intro h
    obtain ⟨_, rfl, r, rfl, h⟩ := h
    split at h
    · cases h
    · rename_i hlink
      simp only [macsMatch, ne_eq, Bool.or_eq_true, decide_eq_true_eq, Bool.not_eq_true',
        decide_eq_false_iff_not, not_or, not_not] at hlink
      obtain ⟨canonical, hcanonical, h⟩ := (except_bind_ok_iff _ _ _).mp h
      split at h
      · cases h
      · rename_i hmac
        simp only [macsMatch, Bool.not_eq_true', decide_eq_false_iff_not, not_not] at hmac
        exact ⟨r, rfl, hlink.1, hlink.2, (authentic_iff r).mpr ⟨canonical, hcanonical, hmac⟩, h⟩
  · intro h
    obtain ⟨r, rfl, rfl, rfl, hauthentic, h⟩ := h
    obtain ⟨canonical, hcanonical, hmac⟩ := (authentic_iff r).mp hauthentic
    refine ⟨_, rfl, r, rfl, ?_⟩
    rw [if_neg (by simp [macsMatch]), hcanonical]
    change (if (!macsMatch r.eventMac _) = true then _ else _) = _
    rw [if_neg (by simp [macsMatch, ← hmac])]
    exact h

/-- The loop accepts the rows of chains of authentic records. -/
theorem verifyRows_records_iff (n : ℤ) (d : Bytes) (rows : List (Except PyExn (List PyValue))) :
    verifyRows key n d rows = .ok () ↔
      ∃ records : List ChainRecord, rows = records.map (fun r => .ok (recordColumns r).values) ∧
        (∀ r ∈ records, r.Authentic key) ∧ Chained auditChaining n d records := by
  induction rows generalizing n d with
  | nil =>
    constructor
    · intro _
      exact ⟨[], rfl, by simp, trivial⟩
    · intro _
      rfl
  | cons row rows ih =>
    rw [verifyRows_cons_iff]
    simp only [ih]
    constructor
    · intro h
      obtain ⟨r, rfl, hnumber, hprevious, hauthentic, records, rfl, hall, hchained⟩ := h
      exact ⟨r :: records, rfl, List.forall_mem_cons.mpr ⟨hauthentic, hall⟩, hnumber, hprevious,
        hchained⟩
    · intro h
      obtain ⟨records, hrows, hall, hchained⟩ := h
      cases records with
      | nil => cases hrows
      | cons r records =>
        obtain ⟨rfl, rfl⟩ := List.cons.inj hrows
        obtain ⟨hauthentic, hall⟩ := List.forall_mem_cons.mp hall
        obtain ⟨hnumber, hprevious, hchained⟩ := hchained
        exact ⟨r, rfl, hnumber, hprevious, hauthentic, records, rfl, hall, hchained⟩

/-- Stored rows that are handed out as records are the rows of these records. -/
theorem fetched_records_iff (rows : List AuditRow) (records : List ChainRecord) :
    (rows.map fun row => fetchTuple row.values) =
        records.map (fun r => .ok (recordColumns r).values) ↔
      (∀ r ∈ records, Encodes r) ∧ rows = records.map recordRow := by
  induction rows generalizing records with
  | nil => cases records <;> simp
  | cons row rows ih =>
    cases records with
    | nil => simp
    | cons r records =>
      simp only [List.map_cons, List.cons.injEq, fetchTuple_record_iff, ih, List.forall_mem_cons]
      tauto

theorem verifyRows_ok_iff (n : ℤ) (d : Bytes) (rows : List AuditRow) :
    verifyRows key n d (rows.map fun row => fetchTuple row.values) = .ok () ↔
      ∃ records : List ChainRecord, rows = records.map recordRow ∧
        (∀ r ∈ records, Encodes r ∧ r.Authentic key) ∧ Chained auditChaining n d records := by
  rw [verifyRows_records_iff]
  refine exists_congr fun records => ?_
  rw [fetched_records_iff]
  constructor
  · intro h
    obtain ⟨⟨hencodes, hrows⟩, hall, hchained⟩ := h
    exact ⟨hrows, fun r hr => ⟨hencodes r hr, hall r hr⟩, hchained⟩
  · intro h
    obtain ⟨hrows, hall, hchained⟩ := h
    exact ⟨⟨fun r hr => (hall r hr).1, hrows⟩, fun r hr => (hall r hr).2, hchained⟩

/-- The loop accepts the rows of genuine chains and no others. -/
theorem verifyRows_genuine_iff (rows : List AuditRow) :
    verifyRows key 1 genesisMac (rows.map fun row => fetchTuple row.values) = .ok () ↔
      Genuine key rows :=
  verifyRows_ok_iff 1 genesisMac rows

end Verify

section Accept

variable {key : Bytes} {db db' : AuditDb Unit}

theorem rethrowing_ret {α : Type} (p : Audit α) (translate : PyExn → PyExn) (a : α) :
    RunsOn (Serves key ()) (rethrowing p translate) db (.ret a) db' ↔
      RunsOn (Serves key ()) p db (.ret a) db' :=
  runsOn_tryExcept_ret p (fun _ _ _ _ h => by cases h.1) a

theorem ask_ret (c : AuditCall) (a : c.Answer) :
    RunsOn (Serves key ()) (ask c) db (.ret a) db' ↔ Serves key () db c (.ok a) db' :=
  runsOn_perform_ret (S := auditSignature) c a

theorem lift_ret {α : Type} (r : Except PyExn α) (a : α) :
    RunsOn (Serves key ()) (lift r) db (.ret a) db' ↔ r = .ok a ∧ db' = db :=
  runsOn_ofReply_ret (S := auditSignature) r a

theorem serves_ok {c : AuditCall} {a : c.Answer} (h : Serves key () db c (.ok a) db')
    (hc : c ≠ .getKey) :
    (answer key () db c).1 = .ok a ∧ (answer key () db c).2 = db' := by
  generalize hr : (Except.ok a : Reply auditSignature c) = r at h
  cases h with
  | answered => exact ⟨rfl, rfl⟩
  | failed => cases hr
  | rolledBack => cases hr
  | wrongKey => exact absurd rfl hc

theorem loadKey_ret_iff (k : Bytes) : RunsOn (Serves key ()) loadKey db (.ret k) db' ↔
    k = key ∧ key.length = macSize ∧ db' = db := by
  rw [loadKey, runsOn_bind_ret]
  simp only [rethrowing_ret, lift_ret]
  constructor
  · intro h
    obtain ⟨v, d₁, hget, hk, rfl⟩ := h
    have hserve := (ask_ret .getKey v).mp hget
    generalize hr : (Except.ok v : Reply auditSignature .getKey) = r at hserve
    cases hserve with
    | answered =>
      cases hr
      obtain ⟨hkey, hlen⟩ := (checkKey_ok_iff _ _).mp hk
      cases hkey
      exact ⟨rfl, hlen, rfl⟩
    | failed => cases hr
    | rolledBack => cases hr
    | wrongKey v' hv =>
      cases hr
      exact absurd hk (hv k)
  · intro h
    obtain ⟨rfl, hlen, rfl⟩ := h
    refine ⟨.bytes k, db', (ask_ret .getKey _).mpr (.answered .getKey), ?_, rfl⟩
    exact (checkKey_ok_iff _ _).mpr ⟨rfl, hlen⟩

theorem connected_ret_iff (p : Audit Unit) : RunsOn (Serves key ()) (connected p) db (.ret ()) db' ↔
    ∃ d, RunsOn (Serves key ()) p db (.ret ()) d ∧ db' = d.release () := by
  rw [connected, runsOn_bind_ret]
  simp only [runsOn_tryFinally_ret]
  constructor
  · intro h
    obtain ⟨_, d₁, hconnect, d, hp, hclose⟩ := h
    obtain ⟨-, rfl⟩ := serves_ok ((ask_ret .connect _).mp hconnect) nofun
    obtain ⟨-, rfl⟩ := serves_ok ((ask_ret .close _).mp hclose) nofun
    exact ⟨d, hp, rfl⟩
  · intro h
    obtain ⟨d, hp, rfl⟩ := h
    exact ⟨(), db, (ask_ret .connect _).mpr (.answered .connect), d, hp,
      (ask_ret .close _).mpr (.answered .close)⟩

/-- Verification accepts a table exactly when its rows in order are a genuine chain. -/
theorem accepts_iff (table : List AuditRow) :
    Accepts key table ↔ key.length = macSize ∧ Genuine key (ordered table) := by
  rw [← verifyRows_genuine_iff]
  unfold Accepts verifyIntegrity
  simp only [runsOn_bind_ret, loadKey_ret_iff, rethrowing_ret, connected_ret_iff, lift_ret]
  constructor
  · intro h
    obtain ⟨_, k, d₁, ⟨rfl, hlen, rfl⟩, d₂, ⟨rows, d₃, hselect, hverify, rfl⟩, rfl⟩ := h
    obtain ⟨hrows, -⟩ := serves_ok ((ask_ret .selectRows rows).mp hselect) nofun
    cases hrows
    exact ⟨hlen, hverify⟩
  · intro h
    obtain ⟨hlen, hverify⟩ := h
    have hselect : RunsOn (Serves key ()) (ask .selectRows) ⟨table, none⟩
        (.ret (fetchRows table)) ⟨table, none⟩ :=
          (ask_ret .selectRows _).mpr (.answered .selectRows)
    exact ⟨⟨table, none⟩, key, ⟨table, none⟩, ⟨rfl, hlen, rfl⟩, ⟨table, none⟩,
      ⟨fetchRows table, ⟨table, none⟩, hselect, hverify, rfl⟩, rfl⟩

end Accept

section NextRow

variable {key : Bytes} {event : AppendArgument} {table : List AuditRow} {row : AuditRow}

/-- The number and the previous MAC of a row that follows `rows`. -/
def LinksTo (rows : List AuditRow) (n : ℤ) (d : Bytes) : Prop :=
  (rows = [] ∧ n = 1 ∧ d = genesisMac) ∨ ∃ last, rows.getLast? = some last ∧
    last.sequenceNo = .integer (n - 1) ∧ 1 < n ∧ last.eventMac = .blob d ∧ d.length = macSize

theorem linksTo_of_head {head : Option (List PyValue)} {n : ℤ} {d : Bytes}
    (hhead : headOf table = .ok head) (hlink : nextChainLink head = .ok (n, d)) :
    LinksTo (ordered table) n d := by
  unfold headOf at hhead
  cases hlast : (ordered table).getLast? with
  | none =>
    rw [hlast] at hhead
    cases hhead
    cases hlink
    exact .inl ⟨List.getLast?_eq_none_iff.mp hlast, rfl, rfl⟩
  | some last =>
    rw [hlast] at hhead
    change (fetchTuple [last.sequenceNo, last.eventMac]).map some = .ok head at hhead
    cases hfetch : fetchTuple [last.sequenceNo, last.eventMac] with
    | error e =>
      rw [hfetch] at hhead
      cases hhead
    | ok values =>
      rw [hfetch] at hhead
      cases hhead
      obtain ⟨-, hvalues⟩ := (fetchTuple_ok_iff _ _).mp hfetch
      unfold nextChainLink at hlink
      split at hlink
      · rename_i heq
        cases heq
      · rename_i sequenceNo eventMac heq
        cases heq
        obtain ⟨hnumber, hmac⟩ := List.cons.inj hvalues
        split at hlink
        · cases hlink
        · rename_i hvalid
          cases hlink
          simp only [Bool.or_eq_true, decide_eq_true_eq, not_or, not_lt, ne_eq, not_not] at hvalid
          refine .inr ⟨last, hlast, ?_, by omega, (List.cons.inj hmac).1, hvalid.2⟩
          rw [hnumber, add_sub_cancel_right]
          rfl
      · cases hlink

/-- What `append` adds is the row of an authentic record that follows the table. -/
theorem nextRow_record (h : NextRow key event table row) : ∃ r : ChainRecord,
    row = recordRow r ∧ Encodes r ∧ r.Authentic key ∧ serialize event = .ok r.fields ∧
      LinksTo (ordered table) r.sequenceNo r.previousMac ∧ violates table row = false := by
  obtain ⟨fields, head, c, hfields, hhead, hc, hbind, hviolates⟩ := h
  simp only [nextColumns, except_bind_ok_iff, pure, Except.pure, Except.ok.injEq] at hc
  obtain ⟨⟨n, d⟩, hlink, canonical, hcanonical, rfl⟩ := hc
  have hlinks := linksTo_of_head hhead hlink
  have hd : d.length = macSize := by
    rcases hlinks with ⟨-, -, rfl⟩ | ⟨last, -, -, -, -, hlen⟩
    · exact genesisMac_length
    · exact hlen
  obtain ⟨hvalues, hrow⟩ := (bindColumns_ok_iff _ _).mp hbind
  refine ⟨⟨n, fields, d, calculateEventMac key canonical d, hd, calculateEventMac_length _ _ _⟩,
    hrow, fun v hv => (hvalues v hv).2, ?_, hfields, hlinks, hviolates⟩
  exact (authentic_iff _).mpr ⟨canonical, hcanonical, rfl⟩

theorem le_getLast {last r : AuditRow} (h : (ordered table).getLast? = some last)
    (hr : r ∈ table) : r.sequenceNo ≤ last.sequenceNo := by
  obtain ⟨rest, hrest⟩ := List.getLast?_eq_some_iff.mp h
  have hsorted : (ordered table).Pairwise fun a b => a.sequenceNo ≤ b.sequenceNo :=
    orderBy_pairwise table
  have hmem : r ∈ ordered table := mem_orderBy.mpr hr
  rw [hrest] at hsorted hmem
  rcases List.mem_append.mp hmem with hmem | hmem
  · exact (List.pairwise_append.mp hsorted).2.2 r hmem last (by simp)
  · rw [List.mem_singleton.mp hmem]

/-- The new row is numbered above all others. -/
theorem LinksTo.lt {n : ℤ} {d : Bytes} (h : LinksTo (ordered table) n d) {r : AuditRow}
    (hr : r ∈ table) : r.sequenceNo ≤ .integer (n - 1) := by
  rcases h with ⟨hnil, -, -⟩ | ⟨last, hlast, hnumber, -, -, -⟩
  · have hmem : r ∈ ordered table := mem_orderBy.mpr hr
    rw [hnil] at hmem
    cases hmem
  · rw [← hnumber]
    exact le_getLast hlast hr

theorem ordered_append {r : ChainRecord} (h : LinksTo (ordered table) r.sequenceNo r.previousMac) :
    ordered (table ++ [recordRow r]) = ordered table ++ [recordRow r] := by
  refine orderBy_append_last fun x hx => le_trans (h.lt hx) ?_
  exact (integer_le_integer _ _).mpr (by omega)

theorem Genuine.of_append {rows rest : List AuditRow} (h : Genuine key (rows ++ rest)) :
    Genuine key rows := by
  obtain ⟨records, hrows, hall, hchained⟩ := h
  obtain ⟨l, m, rfl, rfl, rfl⟩ := List.map_eq_append_iff.mp hrows.symm
  exact ⟨l, rfl, fun r hr => hall r (List.mem_append_left _ hr),
    ((chained_append l m).mp hchained).1⟩

/-- On a chain, the next row takes the next number and the last MAC. -/
theorem linksTo_records {records : List ChainRecord} {n : ℤ} {d : Bytes}
    (hchained : Chained auditChaining 1 genesisMac records)
    (h : LinksTo (records.map recordRow) n d) :
    n = 1 + records.length ∧ d = headDigest auditChaining genesisMac records := by
  rcases List.eq_nil_or_concat records with rfl | ⟨l, x, rfl⟩
  · rcases h with ⟨-, rfl, rfl⟩ | ⟨last, hlast, -⟩
    · exact ⟨rfl, rfl⟩
    · cases hlast
  · rw [List.concat_eq_append] at hchained h ⊢
    obtain ⟨-, hnumber, -⟩ := (chained_concat l x).mp hchained
    rcases h with ⟨hnil, -, -⟩ | ⟨last, hlast, hsequence, -, hmac, -⟩
    · simp at hnil
    · obtain rfl : recordRow x = last := by simpa using hlast
      have hn : x.sequenceNo = n - 1 := SqlValue.integer.inj hsequence
      have hd : x.eventMac = d := SqlValue.blob.inj hmac
      have hx : x.sequenceNo = 1 + l.length := hnumber
      refine ⟨?_, ?_⟩
      · rw [List.length_append, List.length_singleton]
        push_cast
        omega
      · rw [headDigest_concat, ← hd]
        rfl

theorem Genuine.append {rows : List AuditRow} {r : ChainRecord} (h : Genuine key rows)
    (hencodes : Encodes r) (hauthentic : r.Authentic key)
    (hlink : LinksTo rows r.sequenceNo r.previousMac) : Genuine key (rows ++ [recordRow r]) := by
  obtain ⟨records, rfl, hall, hchained⟩ := h
  obtain ⟨hnumber, hprevious⟩ := linksTo_records hchained hlink
  refine ⟨records ++ [r], by simp, ?_, (chained_concat records r).mpr
    ⟨hchained, hnumber, hprevious⟩⟩
  intro x hx
  rcases List.mem_append.mp hx with hx | hx
  · exact hall x hx
  · rw [List.mem_singleton.mp hx]
    exact ⟨hencodes, hauthentic⟩

/-- Appending neither repairs nor breaks a chain. -/
theorem nextRow_genuine_iff (h : NextRow key event table row) :
    Genuine key (ordered (table ++ [row])) ↔ Genuine key (ordered table) := by
  obtain ⟨r, rfl, hencodes, hauthentic, -, hlinks, -⟩ := nextRow_record h
  rw [ordered_append hlinks]
  exact ⟨fun h => h.of_append, fun h => h.append hencodes hauthentic hlinks⟩

end NextRow

end PamMvp.AuditVerification
