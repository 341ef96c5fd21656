import PamMvp.AppendNeutrality

/-!
# Tamper evidence of the audit log

A history appends events and now and then loses a suffix of the table to an
attacker. Unless the attacker forges a MAC or two signed messages collide,
verification accepts exactly the prefixes of the tables that existed.
-/
namespace PamMvp.TamperEvidence
open PythonText DomainModel SqliteValues SqliteParameters Sha256 AuditEncoding AuditRepository
open AuditDatabase AuditVerification AppendNeutrality InteractionPrograms SharedPrograms HashChains

/-- The bytes that the MAC of a stored row authenticates, if it has the form of a row. -/
def messageOf (row : AuditRow) : Except PyExn Bytes := do
  let values ← fetchTuple row.values
  let r ← validateStoredRow values
  r.message

/-- The rows ever appended, the contents that ever existed, and the content now. -/
inductive History (key : Bytes) : List AuditRow → List (List AuditRow) → List AuditRow → Prop where
  | empty : History key [] [[]] []
  | append {appended : List AuditRow} {existed : List (List AuditRow)} {table : List AuditRow}
      {event : AppendArgument} {row : AuditRow} (h : History key appended existed table)
      (happend : Appends key event table (table ++ [row])) :
      History key (appended ++ [row]) (existed ++ [table ++ [row]]) (table ++ [row])
  | truncate {appended : List AuditRow} {existed : List (List AuditRow)} {table : List AuditRow}
      (h : History key appended existed table) (n : ℕ) :
      History key appended (existed ++ [(ordered table).take n]) ((ordered table).take n)

/-- Every row with a correct MAC carries a message that was signed. -/
def NoForgery (key : Bytes) (appended rows : List AuditRow) : Prop :=
  ∀ row ∈ rows, ∀ message, messageOf row = .ok message →
    row.eventMac = .blob (hmacSha256 key message) → ∃ a ∈ appended, messageOf a = .ok message

/-- No two messages that were signed have the same MAC. -/
def NoCollision (key : Bytes) (appended : List AuditRow) : Prop :=
  ∀ a ∈ appended, ∀ b ∈ appended, ∀ m m', messageOf a = .ok m → messageOf b = .ok m' →
    hmacSha256 key m = hmacSha256 key m' → m = m'

theorem messageOf_ok_iff (row : AuditRow) (message : Bytes) :
    messageOf row = .ok message ↔
      ∃ r : ChainRecord, Encodes r ∧ row = recordRow r ∧ r.message = .ok message := by
  simp only [messageOf, except_bind_ok_iff, validateStoredRow_ok_iff]
  constructor
  · intro h
    obtain ⟨_, hfetch, r, rfl, hmessage⟩ := h
    obtain ⟨hencodes, hrow⟩ := (fetchTuple_record_iff row r).mp hfetch
    exact ⟨r, hencodes, hrow, hmessage⟩
  · intro h
    obtain ⟨r, hencodes, hrow, hmessage⟩ := h
    exact ⟨_, (fetchTuple_record_iff row r).mpr ⟨hencodes, hrow⟩, r, rfl, hmessage⟩

section History

variable {key : Bytes} {appended : List AuditRow} {existed : List (List AuditRow)}
  {table : List AuditRow}

theorem ordered_take (n : ℕ) : ordered ((ordered table).take n) = (ordered table).take n := by
  have hsorted : (ordered table).Pairwise fun a b => a.sequenceNo ≤ b.sequenceNo :=
    orderBy_pairwise table
  exact orderBy_of_pairwise (hsorted.sublist (List.take_sublist n _))

/-- What every history keeps: genuine contents in order, made of appended rows, and
every appended row at the end of some content. -/
structure Kept (key : Bytes) (appended : List AuditRow) (existed : List (List AuditRow))
    (table : List AuditRow) : Prop where
  current : table ∈ existed
  nil : [] ∈ existed
  ordered : ∀ content ∈ existed, ordered content = content
  genuine : ∀ content ∈ existed, Genuine key content
  recorded : ∀ content ∈ existed, ∀ row ∈ content, row ∈ appended
  origin : ∀ row ∈ appended, ∃ content, content ++ [row] ∈ existed

theorem Kept.append {row : AuditRow} {event : AppendArgument} (h : Kept key appended existed table)
    (hrow : NextRow key event table row) :
    Kept key (appended ++ [row]) (existed ++ [table ++ [row]]) (table ++ [row]) := by
  have hordered : AuditDatabase.ordered (table ++ [row]) = table ++ [row] := by
    obtain ⟨r, rfl, -, -, -, hlinks, -⟩ := nextRow_record hrow
    rw [ordered_append hlinks, h.ordered table h.current]
  have hgenuine : Genuine key (table ++ [row]) := by
    rw [← hordered, nextRow_genuine_iff hrow, h.ordered table h.current]
    exact h.genuine table h.current
  have hcases : ∀ content ∈ existed ++ [table ++ [row]],
      content ∈ existed ∨ content = table ++ [row] := by simp
  refine ⟨by simp, List.mem_append_left _ h.nil, fun content hc => ?_, fun content hc => ?_,
    fun content hc x hx => ?_, fun x hx => ?_⟩
  · rcases hcases content hc with hc | rfl
    · exact h.ordered content hc
    · exact hordered
  · rcases hcases content hc with hc | rfl
    · exact h.genuine content hc
    · exact hgenuine
  · rcases hcases content hc with hc | rfl
    · exact List.mem_append_left _ (h.recorded content hc x hx)
    · rcases List.mem_append.mp hx with hx | hx
      · exact List.mem_append_left _ (h.recorded table h.current x hx)
      · exact List.mem_append_right _ hx
  · rcases List.mem_append.mp hx with hx | hx
    · obtain ⟨content, hcontent⟩ := h.origin x hx
      exact ⟨content, List.mem_append_left _ hcontent⟩
    · rw [List.mem_singleton.mp hx]
      exact ⟨table, by simp⟩

theorem Kept.truncate (h : Kept key appended existed table) (n : ℕ) :
    Kept key appended (existed ++ [(AuditDatabase.ordered table).take n])
      ((AuditDatabase.ordered table).take n) := by
  have hcases : ∀ content ∈ existed ++ [(AuditDatabase.ordered table).take n],
      content ∈ existed ∨ content = (AuditDatabase.ordered table).take n := by simp
  refine ⟨by simp, List.mem_append_left _ h.nil, fun content hc => ?_, fun content hc => ?_,
    fun content hc x hx => ?_, fun x hx => ?_⟩
  · rcases hcases content hc with hc | rfl
    · exact h.ordered content hc
    · exact ordered_take n
  · rcases hcases content hc with hc | rfl
    · exact h.genuine content hc
    · rw [h.ordered table h.current]
      have hgenuine := h.genuine table h.current
      rw [← List.take_append_drop n table] at hgenuine
      exact hgenuine.of_append
  · rcases hcases content hc with hc | rfl
    · exact h.recorded content hc x hx
    · exact h.recorded table h.current x (mem_orderBy.mp (List.mem_of_mem_take hx))
  · obtain ⟨content, hcontent⟩ := h.origin x hx
    exact ⟨content, List.mem_append_left _ hcontent⟩

theorem History.kept (h : History key appended existed table) :
    Kept key appended existed table := by
  induction h with
  | empty =>
    refine ⟨by simp, by simp, ?_, ?_, by simp, by simp⟩
    · intro content hc
      rw [List.mem_singleton.mp hc]
      rfl
    · intro content hc
      rw [List.mem_singleton.mp hc]
      exact ⟨[], rfl, by simp, trivial⟩
  | append _ happend ih =>
    obtain ⟨row, hrow, hnew⟩ := happend.nextRow
    obtain ⟨-, hsame⟩ := List.append_inj' hnew rfl
    cases hsame
    exact ih.append hrow
  | truncate _ n ih => exact ih.truncate n

/-- A record whose row was appended. -/
def Recorded (key : Bytes) (appended : List AuditRow) (r : ChainRecord) : Prop :=
  Encodes r ∧ r.Authentic key ∧ recordRow r ∈ appended

/-- The records of a content that existed. -/
def Held (key : Bytes) (existed : List (List AuditRow)) (records : List ChainRecord) : Prop :=
  (∀ r ∈ records, Encodes r ∧ r.Authentic key) ∧ Chained auditChaining 1 genesisMac records ∧
    records.map recordRow ∈ existed

/-- The contents of a history are an archive of hash chains. -/
theorem Kept.archive (h : Kept key appended existed table) :
    Archive auditChaining 1 genesisMac (Held key existed) (Recorded key appended) where
  nil := ⟨by simp, trivial, h.nil⟩
  chained records hheld := hheld.2.1
  recorded records hheld r hr := by
    obtain ⟨hall, -, hexisted⟩ := hheld
    exact ⟨(hall r hr).1, (hall r hr).2, h.recorded _ hexisted _ (List.mem_map_of_mem hr)⟩
  origin r hr := by
    obtain ⟨hencodes, -, happended⟩ := hr
    obtain ⟨content, hcontent⟩ := h.origin _ happended
    obtain ⟨records, hrecords, hall, hchained⟩ := h.genuine _ hcontent
    obtain ⟨l, m, rfl, rfl, hm⟩ := List.map_eq_append_iff.mp hrecords.symm
    obtain ⟨x, rfl, hx⟩ := List.map_eq_singleton_iff.mp hm
    have hxr : x = r := recordRow_injective (hall x (by simp)).1 hencodes hx
    subst hxr
    refine ⟨l, hall, hchained, ?_⟩
    rw [List.map_append, List.map_singleton]
    exact hcontent

theorem Kept.recorded_of_message (h : Kept key appended existed table) {row : AuditRow}
    {message : Bytes} (hrow : row ∈ appended) (hmessage : messageOf row = .ok message) :
    ∃ r, Recorded key appended r ∧ r.message = .ok message := by
  obtain ⟨content, hcontent⟩ := h.origin row hrow
  obtain ⟨records, hrecords, hall, -⟩ := h.genuine _ hcontent
  have hmem : row ∈ records.map recordRow := by simp [← hrecords]
  obtain ⟨r, hr, rfl⟩ := List.mem_map.mp hmem
  obtain ⟨s, hs, hsame, hs'⟩ := (messageOf_ok_iff _ _).mp hmessage
  have hrs : r = s := recordRow_injective (hall r hr).1 hs hsame
  subst hrs
  exact ⟨r, ⟨(hall r hr).1, (hall r hr).2, hrow⟩, hs'⟩

/-- Verification accepts exactly the prefixes of contents that existed: without a
forged MAC or a collision, losing the tail is the only change that it misses. -/
theorem verifyRows_accepts_iff (h : History key appended existed table) (rows : List AuditRow)
    (hforgery : NoForgery key appended rows) (hcollision : NoCollision key appended) :
    verifyRows key 1 genesisMac (rows.map fun row => fetchTuple row.values) = .ok () ↔
      ∃ content ∈ existed, rows <+: ordered content := by
  have hkept := h.kept
  rw [verifyRows_genuine_iff]
  constructor
  · intro hgenuine
    obtain ⟨records, rfl, hall, hchained⟩ := hgenuine
    have hrecorded : ∀ r ∈ records, Recorded key appended r := by
      intro r hr
      obtain ⟨hencodes, message, hmessage, hmac⟩ := hall r hr
      obtain ⟨a, ha, hsigned⟩ := hforgery (recordRow r) (List.mem_map_of_mem hr) message
        ((messageOf_ok_iff _ _).mpr ⟨r, hencodes, rfl, hmessage⟩) (congrArg SqlValue.blob hmac)
      obtain ⟨s, hs, hsmessage⟩ := hkept.recorded_of_message ha hsigned
      obtain ⟨message', hmessage', hsmac⟩ := hs.2.1
      rw [hsmessage] at hmessage'
      cases hmessage'
      rw [ChainRecord.eq_of_message hmessage hsmessage (hmac.trans hsmac.symm)]
      exact hs
    have hheld := hkept.archive.existed_of_chained hchained hrecorded fun a b ha hb hdigest => by
      obtain ⟨hae, ⟨m, hm, hmac⟩, haa⟩ := ha
      obtain ⟨hbe, ⟨m', hm', hmac'⟩, hba⟩ := hb
      have hmm : m = m' := by
        refine hcollision _ haa _ hba m m' ((messageOf_ok_iff _ _).mpr ⟨a, hae, rfl, hm⟩)
          ((messageOf_ok_iff _ _).mpr ⟨b, hbe, rfl, hm'⟩) ?_
        rw [← hmac, ← hmac']
        exact hdigest
      subst hmm
      exact ChainRecord.eq_of_message hm hm' hdigest
    obtain ⟨-, -, hexisted⟩ := hheld
    refine ⟨_, hexisted, ?_⟩
    rw [hkept.ordered _ hexisted]
  · intro hprefix
    obtain ⟨content, hcontent, hrows⟩ := hprefix
    rw [hkept.ordered _ hcontent] at hrows
    obtain ⟨rest, rfl⟩ := hrows
    exact (hkept.genuine _ hcontent).of_append

end History

section Example

/-- The attacker cuts the second row off, and a third event is appended in its place. -/
def branchRow : AuditRow := (exampleRow (py "e-3") [firstRow]).get (by decide +kernel)

def exampleRows : List AuditRow := [firstRow, secondRow, branchRow]

theorem example_history : History exampleKey exampleRows
    [[], [firstRow], [firstRow, secondRow], [firstRow], [firstRow, branchRow]]
      [firstRow, branchRow] := by
  have hfirst : History exampleKey [firstRow] [[], [firstRow]] [firstRow] :=
    .append .empty (exampleRow_appends (Option.some_get _).symm)
  have hsecond : History exampleKey [firstRow, secondRow]
      [[], [firstRow], [firstRow, secondRow]] [firstRow, secondRow] :=
    .append hfirst (exampleRow_appends (Option.some_get _).symm)
  have hcut := hsecond.truncate 1
  rw [hsecond.kept.ordered _ hsecond.kept.current] at hcut
  exact .append hcut (exampleRow_appends (Option.some_get _).symm)

/-- Whether the messages of two rows, when both have one, are told apart by their tags. -/
def apart (a b : AuditRow) : Bool :=
  match messageOf a, messageOf b with
  | .ok m, .ok m' => decide (hmacSha256 exampleKey m = hmacSha256 exampleKey m' → m = m')
  | _, _ => true

theorem example_noCollision : NoCollision exampleKey exampleRows := by
  have hcheck : (exampleRows.all fun a => exampleRows.all fun b => apart a b) = true := by
    decide +kernel
  intro a ha b hb m m' hm hm'
  have hab := List.all_eq_true.mp (List.all_eq_true.mp hcheck a ha) b hb
  rw [apart, hm, hm'] at hab
  exact of_decide_eq_true hab

theorem verifyRows_accepts_iff_example :
    verifyRows exampleKey 1 genesisMac
      ([firstRow, secondRow].map fun row => fetchTuple row.values) = .ok () := by
  refine (verifyRows_accepts_iff example_history [firstRow, secondRow]
    (fun row hrow m hm _ => ⟨row, ?_, hm⟩) example_noCollision).mpr ?_
  · exact List.mem_append_left [branchRow] hrow
  · refine ⟨[firstRow, secondRow], by simp, ?_⟩
    rw [example_history.kept.ordered _ (by simp)]

end Example

end PamMvp.TamperEvidence
