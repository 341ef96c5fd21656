import PamMvp.AuditVerification
import Mathlib.Data.List.ProdSigma

/-!
# The chain head commits to the log

Two logs that verify under one key and end in the same MAC are the same log, or
they hold two different signed messages with one HMAC. The pair is found by
comparing the signed messages of the two logs.
-/
namespace PamMvp.ChainHead
open PythonText DomainModel SqliteValues Sha256 AuditEncoding AuditRepository AuditVerification
  HashChains

/-- What the MAC of a row authenticates: canonical bytes and the previous MAC. -/
def signedMessage (row : List PyValue) : Except PyExn Bytes := do
  let r ← validateStoredRow row
  r.message

/-- The messages that the verification of a log hashes, in order. -/
def signedMessages (rows : List (List PyValue)) : List Bytes :=
  rows.filterMap fun row => (signedMessage row).toOption

/-- The stored MAC of the last row. -/
def lastMac (rows : List (List PyValue)) : Option PyValue :=
  rows.getLast?.bind fun row => row[10]?

/-- The first pair of different messages of two logs that have the same HMAC. -/
def findCollision (key : Bytes) (rows rows' : List (List PyValue)) : Option (Bytes × Bytes) :=
  (signedMessages rows ×ˢ signedMessages rows').find? fun pair =>
    pair.1 ≠ pair.2 ∧ hmacSha256 key pair.1 = hmacSha256 key pair.2

variable {key : Bytes}

theorem signedMessage_record (r : ChainRecord) :
    signedMessage (recordColumns r).values = r.message := by
  rw [signedMessage, (validateStoredRow_ok_iff _ r).mpr rfl]
  rfl

theorem mem_signedMessages {records : List ChainRecord} {r : ChainRecord} {message : Bytes}
    (hr : r ∈ records) (h : r.message = .ok message) :
    message ∈ signedMessages (records.map fun r => (recordColumns r).values) := by
  refine List.mem_filterMap.mpr ⟨_, List.mem_map_of_mem hr, ?_⟩
  rw [signedMessage_record, h]
  rfl

theorem lastMac_records {records : List ChainRecord} (hne : records ≠ []) :
    lastMac (records.map fun r => (recordColumns r).values) =
      some (.bytes (headDigest auditChaining genesisMac records)) := by
  obtain ⟨init, last, rfl⟩ := (List.eq_nil_or_concat records).resolve_left hne
  rw [List.concat_eq_append, headDigest_concat]
  simp [lastMac, recordColumns, AuditColumns.values, auditChaining]

/-- Different rows with one MAC sign different messages with one HMAC. -/
theorem messages_of_collision {a b : ChainRecord} (ha : a.Authentic key) (hb : b.Authentic key)
    (hab : a ≠ b) (hmac : a.eventMac = b.eventMac) :
    ∃ m m', a.message = .ok m ∧ b.message = .ok m' ∧ m ≠ m' ∧
      hmacSha256 key m = hmacSha256 key m' := by
  obtain ⟨m, hm, hma⟩ := ha
  obtain ⟨m', hm', hmb⟩ := hb
  refine ⟨m, m', hm, hm', fun heq => ?_, ?_⟩
  · rw [← heq] at hm'
    exact hab (ChainRecord.eq_of_message hm hm' hmac)
  · rw [← hma, ← hmb, hmac]

theorem findCollision_isSome {rows rows' : List (List PyValue)} {m m' : Bytes}
    (hm : m ∈ signedMessages rows) (hm' : m' ∈ signedMessages rows') (hne : m ≠ m')
    (hmac : hmacSha256 key m = hmacSha256 key m') :
    (findCollision key rows rows').isSome = true := by
  rw [findCollision, List.find?_isSome]
  exact ⟨(m, m'), List.pair_mem_product.mpr ⟨hm, hm'⟩, by simp [hne, hmac]⟩

theorem findCollision_sound {rows rows' : List (List PyValue)} {m m' : Bytes}
    (h : findCollision key rows rows' = some (m, m')) :
    m ∈ signedMessages rows ∧ m' ∈ signedMessages rows' ∧ m ≠ m' ∧
      hmacSha256 key m = hmacSha256 key m' := by
  obtain ⟨hm, hm'⟩ := List.pair_mem_product.mp (List.mem_of_find?_eq_some h)
  have hpair := List.find?_some h
  simp only [decide_eq_true_eq] at hpair
  exact ⟨hm, hm', hpair.1, hpair.2⟩

/-- Two accepted logs with the same last MAC agree in every row and column, or the
search through their signed messages exhibits an HMAC collision. -/
theorem equal_heads_commit (key : Bytes) (rows rows' : List (List PyValue)) (hne : rows ≠ [])
    (hne' : rows' ≠ []) (haccept : verifyRows key 1 genesisMac (rows.map .ok) = .ok ())
    (haccept' : verifyRows key 1 genesisMac (rows'.map .ok) = .ok ())
    (hhead : lastMac rows = lastMac rows') :
    rows = rows' ∨ ∃ m m', findCollision key rows rows' = some (m, m') ∧
      m ∈ signedMessages rows ∧ m' ∈ signedMessages rows' ∧ m ≠ m' ∧
        hmacSha256 key m = hmacSha256 key m' := by
  obtain ⟨records, hrows, hall, hchained⟩ := (verifyRows_records_iff 1 genesisMac _).mp haccept
  obtain ⟨records', hrows', hall', hchained'⟩ := (verifyRows_records_iff 1 genesisMac _).mp haccept'
  have hinj : Function.Injective (List.map (Except.ok (ε := PyExn) (α := List PyValue))) :=
    List.map_injective_iff.mpr fun _ _ h => Except.ok.inj h
  have hr : rows = records.map fun r => (recordColumns r).values :=
    hinj (by rw [List.map_map]; exact hrows)
  have hr' : rows' = records'.map fun r => (recordColumns r).values :=
    hinj (by rw [List.map_map]; exact hrows')
  subst hr hr'
  have hnil : records ≠ [] := fun h => hne (by simp [h])
  have hnil' : records' ≠ [] := fun h => hne' (by simp [h])
  rw [lastMac_records hnil, lastMac_records hnil'] at hhead
  have hdigest := PyValue.bytes.inj (Option.some.inj hhead)
  rcases hchained.eq_or_collision hchained' hnil hnil' hdigest with rfl | ⟨a, ha, b, hb, hab, hmac⟩
  · exact .inl rfl
  · obtain ⟨m, m', hm, hm', hmm, hsame⟩ := messages_of_collision (hall a ha) (hall' b hb) hab hmac
    have hfound := findCollision_isSome (mem_signedMessages ha hm) (mem_signedMessages hb hm') hmm
      hsame
    obtain ⟨pair, hpair⟩ := Option.isSome_iff_exists.mp hfound
    exact .inr ⟨pair.1, pair.2, hpair, findCollision_sound hpair⟩

section Example

def exampleKey : Bytes := (List.range 32).map UInt8.ofNat

def exampleFields : EventFields :=
  ⟨py "e-1", py "2024-12-31T23:59:59.999999Z", py "access_denied", py "alice", py "db", none,
    py "denied", some (py "no_matching_policy")⟩

/-- The values of two rows, the second one linked to the first. -/
def exampleLog : List (List PyValue) :=
  let rows : Except PyExn (List (AuditColumns PyValue)) := do
    let first ← nextColumns exampleKey exampleFields none
    let second ← nextColumns exampleKey { exampleFields with eventId := py "e-2" }
      (some [.int 1, first.eventMac])
    return [first, second]
  (rows.toOption.getD []).map AuditColumns.values

theorem exampleLog_length : exampleLog.length = 2 := by decide +kernel

theorem exampleLog_accepted :
    verifyRows exampleKey 1 genesisMac (exampleLog.map .ok) = .ok () := by
  decide +kernel

theorem equal_heads_commit_example : exampleLog.length = 2 ∧
    (exampleLog = exampleLog ∨
      ∃ m m', findCollision exampleKey exampleLog exampleLog = some (m, m') ∧
      m ∈ signedMessages exampleLog ∧ m' ∈ signedMessages exampleLog ∧ m ≠ m' ∧
        hmacSha256 exampleKey m = hmacSha256 exampleKey m') := by
  have hne : exampleLog ≠ [] := List.ne_nil_of_length_eq_add_one exampleLog_length
  exact ⟨exampleLog_length, equal_heads_commit exampleKey exampleLog exampleLog hne hne
    exampleLog_accepted exampleLog_accepted rfl⟩

end Example

end PamMvp.ChainHead
