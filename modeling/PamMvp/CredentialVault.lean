import PamMvp.SqliteParameters

/-!
# The credential vault

The vault encrypts a plaintext without associated data and keeps the result beside the
id of the credential. Nothing but the row ties the two together: whoever can write the
rows decides which of the encrypted plaintexts an id is resolved to.
-/
namespace PamMvp.CredentialVault
open PythonText DomainModel SqliteValues SqliteParameters

/-- `EncryptedSecret`. -/
structure EncryptedSecret where
  version : ℤ
  nonce : Bytes
  ciphertext : Bytes
  nonce_length : nonce.length = 12
  ciphertext_nonempty : ciphertext ≠ []

/-- `EncryptedSecret(version, nonce, ciphertext)`. -/
def EncryptedSecret.new (version : ℤ) (nonce ciphertext : Bytes) : Except PyExn EncryptedSecret :=
  if hnonce : nonce.length = 12 then
    if hciphertext : ciphertext ≠ [] then .ok ⟨version, nonce, ciphertext, hnonce, hciphertext⟩
    else .error (raised .valueError (py "ciphertext cannot be empty"))
  else .error (raised .valueError (py "nonce must be exactly 12 bytes"))

/-- `AESGCM(key)`; the arguments are a nonce, the data and the associated data. -/
structure AesGcm where
  encrypt : Bytes → Bytes → Option Bytes → Except PyExn Bytes
  decrypt : Bytes → Bytes → Option Bytes → Except PyExn Bytes

/-- `AesGcmSecretCipher.VERSION`. -/
def cipherVersion : ℤ := 1

/-- `AesGcmSecretCipher.encrypt`, with the random nonce that it draws. -/
def encrypt (gcm : AesGcm) (nonce plaintext : Bytes) : Except PyExn EncryptedSecret := do
  let ciphertext ← gcm.encrypt nonce plaintext none
  EncryptedSecret.new cipherVersion nonce ciphertext

/-- `AesGcmSecretCipher.decrypt`. -/
def decrypt (gcm : AesGcm) (encrypted : EncryptedSecret) : Except PyExn Bytes :=
  if encrypted.version ≠ cipherVersion then
    .error (raised .secretCipherError (py "unsupported encrypted secret version"))
  else
    (gcm.decrypt encrypted.nonce encrypted.ciphertext none).mapError fun e =>
      if e.cls = .invalidTag then
        raised .secretCipherError (py "secret authentication failed")
      else e

/-- A row of `vault_credentials`. -/
structure VaultRow where
  id : SqlValue
  encryptionVersion : SqlValue
  nonce : SqlValue
  ciphertext : SqlValue
  deriving DecidableEq

def vaultError (message : String) : PyExn := raised .vaultError (py message)

/-- `VaultError` and its subclasses. -/
def isVaultError (e : PyExn) : Bool :=
  e.cls = .vaultError || e.cls = .duplicateCredentialError || e.cls = .unsupportedVaultSchemaError

/-- `except Exception: raise VaultError(message)`. -/
def catchException {α : Type} (message : String) (r : Except PyExn α) : Except PyExn α :=
  r.mapError fun e => if e.isException then vaultError message else e

/-- The `INSERT`; the only constraint that its row can break is the primary key. -/
def insert (rows : List VaultRow) (row : VaultRow) : Except PyExn (List VaultRow) :=
  if rows.any fun r => r.id = row.id then
    .error (raised .duplicateCredentialError (py "credential id already exists"))
  else .ok (rows ++ [row])

/-- `store`. A database that is not `available` fails with a `sqlite3.Error`. -/
def store (gcm : AesGcm) (available : Bool) (rows : List VaultRow) (nonce : Bytes)
    (credentialRef : CredentialRef) (plaintext : Bytes) : Except PyExn (List VaultRow) := do
  let encrypted ← catchException "credential could not be encrypted" (encrypt gcm nonce plaintext)
  if !available then .error (vaultError "credential could not be stored")
  else
    let id ← bindParameter (.str credentialRef.id)
    let version ← bindParameter (.int encrypted.version)
    insert rows ⟨id, version, .blob encrypted.nonce, .blob encrypted.ciphertext⟩

/-- `_deserialize`. -/
def deserialize : List PyValue → Except PyExn EncryptedSecret
  | [.int version, .bytes nonce, .bytes ciphertext] =>
    (EncryptedSecret.new version nonce ciphertext).mapError fun _ =>
      vaultError "credential could not be decrypted"
  | _ => .error (vaultError "credential could not be decrypted")

/-- The three values of a row that `resolve` selects. -/
def fetchRow (row : VaultRow) : Except PyExn (List PyValue) :=
  (fetchTuple [row.encryptionVersion, row.nonce, row.ciphertext]).mapError fun _ =>
    vaultError "credential could not be loaded"

/-- `resolve`. -/
def resolve (gcm : AesGcm) (available : Bool) (rows : List VaultRow)
    (credentialRef : CredentialRef) : Except PyExn BrokerCredential := do
  if !available then .error (vaultError "credential could not be loaded")
  else
    let id ← bindParameter (.str credentialRef.id)
    match rows.find? (·.id = id) with
    | none => .error (vaultError "credential does not exist")
    | some row =>
      let encrypted ← deserialize (← fetchRow row)
      let plaintext ← catchException "credential could not be decrypted" (decrypt gcm encrypted)
      return ⟨plaintext⟩

/-- One successful `AESGCM.encrypt`. -/
structure Encryption where
  nonce : Bytes
  plaintext : Bytes
  associatedData : Option Bytes
  ciphertext : Bytes
  deriving DecidableEq

/-- A call of `store`, with the nonce that is drawn for it. -/
structure StoreCall where
  available : Bool
  nonce : Bytes
  nonce_length : nonce.length = 12
  credentialRef : CredentialRef
  plaintext : Bytes

/-- The rows, the encryptions so far, and the plaintexts of the successful stores
with their ids. -/
structure VaultState where
  rows : List VaultRow
  log : List Encryption
  stored : List (PyStr × Bytes)

def logged (gcm : AesGcm) (call : StoreCall) : List Encryption :=
  match gcm.encrypt call.nonce call.plaintext none with
  | .ok ciphertext => [⟨call.nonce, call.plaintext, none, ciphertext⟩]
  | .error _ => []

def step (gcm : AesGcm) (state : VaultState) (call : StoreCall) : VaultState :=
  let log := state.log ++ logged gcm call
  match store gcm call.available state.rows call.nonce call.credentialRef call.plaintext with
  | .ok rows => ⟨rows, log, state.stored ++ [(call.credentialRef.id, call.plaintext)]⟩
  | .error _ => { state with log := log }

def after (gcm : AesGcm) (calls : List StoreCall) : VaultState :=
  calls.foldl (step gcm) ⟨[], [], []⟩

/-- What is assumed of AES-GCM under one key: decryption succeeds on what was
encrypted, with its plaintext, and on nothing else; a ciphertext holds a tag; a failure
is an `Exception`. -/
structure Genuine (gcm : AesGcm) (log : List Encryption) : Prop where
  decrypts : ∀ nonce ciphertext data plaintext,
    gcm.decrypt nonce ciphertext data = .ok plaintext ↔ ⟨nonce, plaintext, data, ciphertext⟩ ∈ log
  tagged : ∀ e ∈ log, e.ciphertext ≠ []
  failures : ∀ nonce ciphertext data e, gcm.decrypt nonce ciphertext data = .error e →
    e.isException = true

/-- The values of an encryption stand in the row. -/
structure Carries (row : VaultRow) (e : Encryption) : Prop where
  version : row.encryptionVersion = .integer cipherVersion
  nonce : row.nonce = .blob e.nonce
  ciphertext : row.ciphertext = .blob e.ciphertext

instance (row : VaultRow) (e : Encryption) : Decidable (Carries row e) :=
  decidable_of_iff (row.encryptionVersion = .integer cipherVersion ∧ row.nonce = .blob e.nonce ∧
    row.ciphertext = .blob e.ciphertext) ⟨fun h => ⟨h.1, h.2.1, h.2.2⟩, fun h => ⟨h.1, h.2, h.3⟩⟩

section Resolving

variable {gcm : AesGcm} {log : List Encryption} {row : VaultRow} {rows : List VaultRow}
  {ref : CredentialRef}

theorem encryptedSecret_new_ok_iff (version : ℤ) (nonce ciphertext : Bytes)
    (encrypted : EncryptedSecret) : EncryptedSecret.new version nonce ciphertext = .ok encrypted ↔
      encrypted.version = version ∧ encrypted.nonce = nonce ∧
        encrypted.ciphertext = ciphertext := by
  unfold EncryptedSecret.new
  cases encrypted with
  | mk version' nonce' ciphertext' hnonce hciphertext =>
    constructor
    · intro h
      split_ifs at h
      cases h
      exact ⟨rfl, rfl, rfl⟩
    · intro h
      obtain ⟨rfl, rfl, rfl⟩ := h
      rw [dif_pos hnonce, dif_pos hciphertext]

/-- What is read from a row before it is decrypted. -/
def readRow (row : VaultRow) : Except PyExn EncryptedSecret := do
  deserialize (← fetchRow row)

theorem fetchRow_ok_iff (values : List PyValue) : fetchRow row = .ok values ↔
    (∀ v ∈ values, v.encodes = true) ∧
      [row.encryptionVersion, row.nonce, row.ciphertext] = values.map PyValue.stored := by
  rw [fetchRow, mapError_ok_iff, fetchTuple_ok_iff]

theorem readRow_ok_iff (encrypted : EncryptedSecret) : readRow row = .ok encrypted ↔
    row.encryptionVersion = .integer encrypted.version ∧ row.nonce = .blob encrypted.nonce ∧
      row.ciphertext = .blob encrypted.ciphertext := by
  simp only [readRow, except_bind_ok_iff, fetchRow_ok_iff]
  constructor
  · intro h
    obtain ⟨values, ⟨-, hvalues⟩, h⟩ := h
    unfold deserialize at h
    split at h
    · rw [mapError_ok_iff, encryptedSecret_new_ok_iff] at h
      obtain ⟨hversion, hnonce, hciphertext⟩ := h
      simp only [List.map_cons, List.map_nil, PyValue.stored, List.cons.injEq, and_true] at hvalues
      rw [hversion, hnonce, hciphertext]
      exact hvalues
    · cases h
  · intro h
    obtain ⟨hversion, hnonce, hciphertext⟩ := h
    refine ⟨[.int encrypted.version, .bytes encrypted.nonce, .bytes encrypted.ciphertext], ?_, ?_⟩
    · constructor
      · simp [PyValue.encodes]
      · simp [PyValue.stored, hversion, hnonce, hciphertext]
    · rw [deserialize, mapError_ok_iff, encryptedSecret_new_ok_iff]
      exact ⟨rfl, rfl, rfl⟩

theorem vaultError_isVaultError (message : String) : isVaultError (vaultError message) = true := by
  simp [isVaultError, vaultError, raised]

theorem readRow_error {e : PyExn} (h : readRow row = .error e) : isVaultError e = true := by
  unfold readRow at h
  cases hfetch : fetchRow row with
  | error e' =>
    rw [hfetch] at h
    cases h
    unfold fetchRow at hfetch
    cases htuple : fetchTuple [row.encryptionVersion, row.nonce, row.ciphertext] with
    | ok values =>
      rw [htuple] at hfetch
      cases hfetch
    | error e'' =>
      rw [htuple] at hfetch
      cases hfetch
      exact vaultError_isVaultError _
  | ok values =>
    rw [hfetch] at h
    change deserialize values = .error e at h
    unfold deserialize at h
    split at h
    · generalize EncryptedSecret.new _ _ _ = r at h
      cases r with
      | ok encrypted => cases h
      | error e' =>
        cases h
        exact vaultError_isVaultError _
    · cases h
      exact vaultError_isVaultError _

theorem catchException_error {α : Type} {message : String} {r : Except PyExn α} {e : PyExn}
    (hr : ∀ e', r = .error e' → e'.isException = true)
    (h : catchException message r = .error e) : isVaultError e = true := by
  cases r with
  | ok a => cases h
  | error e' =>
    simp only [catchException, Except.mapError, hr e' rfl, if_true, Except.error.injEq] at h
    rw [← h]
    exact vaultError_isVaultError _

theorem decrypt_ok_iff (hgenuine : Genuine gcm log) (encrypted : EncryptedSecret)
    (plaintext : Bytes) : decrypt gcm encrypted = .ok plaintext ↔
      encrypted.version = cipherVersion ∧
        ⟨encrypted.nonce, plaintext, none, encrypted.ciphertext⟩ ∈ log := by
  unfold decrypt
  split_ifs with hversion
  · simp [hversion]
  · rw [mapError_ok_iff, hgenuine.decrypts]
    exact ⟨fun h => ⟨not_not.mp hversion, h⟩, And.right⟩

theorem decrypt_error (hgenuine : Genuine gcm log) {encrypted : EncryptedSecret} {e : PyExn}
    (h : decrypt gcm encrypted = .error e) : e.isException = true := by
  unfold decrypt at h
  split_ifs at h
  · cases h
    rfl
  · cases hr : gcm.decrypt encrypted.nonce encrypted.ciphertext none with
    | ok plaintext =>
      rw [hr] at h
      cases h
    | error e' =>
      have hexception := hgenuine.failures _ _ _ _ hr
      rw [hr] at h
      simp only [Except.mapError, Except.error.injEq] at h
      rw [← h]
      split_ifs
      · rfl
      · exact hexception

/-- The row that `resolve` reads. -/
def rowFor (rows : List VaultRow) (ref : CredentialRef) : Option VaultRow :=
  rows.find? (·.id = .text (utf8 ref.id))

theorem resolve_encodable (href : encodable ref.id = true) : resolve gcm true rows ref =
    match rowFor rows ref with
    | none => .error (vaultError "credential does not exist")
    | some row => do
      let encrypted ← readRow row
      let plaintext ← catchException "credential could not be decrypted" (decrypt gcm encrypted)
      return ⟨plaintext⟩ := by
  simp only [resolve, bindParameter_str, href, Bool.not_true, Bool.false_eq_true, if_false, if_true,
    rowFor]
  change (match rows.find? _ with | none => _ | some row => _) = _
  cases rows.find? fun r => decide (r.id = .text (utf8 ref.id)) with
  | none => rfl
  | some row =>
    simp only [readRow, bind_assoc]

/-- A credential is what the row of its id carries. -/
theorem resolve_ok_iff (hgenuine : Genuine gcm log) (href : encodable ref.id = true)
    (plaintext : Bytes) : resolve gcm true rows ref = .ok ⟨plaintext⟩ ↔
      ∃ row, rowFor rows ref = some row ∧ ∃ e ∈ log, Carries row e ∧ e.nonce.length = 12 ∧
        e.associatedData = none ∧ e.plaintext = plaintext := by
  rw [resolve_encodable href]
  cases rowFor rows ref with
  | none => simp
  | some row =>
    simp only [except_bind_ok_iff, readRow_ok_iff, catchException, mapError_ok_iff,
      decrypt_ok_iff hgenuine, pure, Except.pure, Except.ok.injEq, BrokerCredential.mk.injEq,
      Option.some.injEq, exists_eq_left']
    constructor
    · intro h
      obtain ⟨encrypted, ⟨hversion, hnonce, hciphertext⟩, _, ⟨hsupported, hmem⟩, rfl⟩ := h
      rw [hsupported] at hversion
      exact ⟨_, hmem, ⟨hversion, hnonce, hciphertext⟩, encrypted.nonce_length, rfl, rfl⟩
    · intro h
      obtain ⟨e, hmem, hcarries, hlength, hdata, rfl⟩ := h
      refine ⟨⟨cipherVersion, e.nonce, e.ciphertext, hlength, hgenuine.tagged e hmem⟩,
        ⟨hcarries.version, hcarries.nonce, hcarries.ciphertext⟩, e.plaintext, ⟨rfl, ?_⟩, rfl⟩
      rw [← hdata]
      exact hmem

/-- Only a text that cannot be bound raises anything but a `VaultError`. -/
theorem resolve_error (hgenuine : Genuine gcm log) (href : encodable ref.id = true) {e : PyExn}
    (h : resolve gcm true rows ref = .error e) : isVaultError e = true := by
  rw [resolve_encodable href] at h
  cases hrow : rowFor rows ref with
  | none =>
    rw [hrow] at h
    cases h
    exact vaultError_isVaultError _
  | some row =>
    rw [hrow] at h
    cases hread : readRow row with
    | error e' =>
      simp only [hread] at h
      cases h
      exact readRow_error hread
    | ok encrypted =>
      cases hdecrypt : catchException "credential could not be decrypted"
        (decrypt gcm encrypted) with
      | error e' =>
        simp only [hread, bind, Except.bind, hdecrypt] at h
        cases h
        exact catchException_error (fun _ => decrypt_error hgenuine) hdecrypt
      | ok plaintext =>
        simp only [hread, bind, Except.bind, hdecrypt] at h
        cases h

theorem resolve_unencodable (href : encodable ref.id = false) :
    resolve gcm true rows ref = .error (bindExn .unicodeEncode) := by
  simp only [resolve, bindParameter_str, href]
  rfl

theorem resolve_unavailable :
    resolve gcm false rows ref = .error (vaultError "credential could not be loaded") := rfl

end Resolving

section Storing

variable {gcm : AesGcm} {log log' : List Encryption} {state : VaultState} {rows : List VaultRow}
  {ref : CredentialRef}

theorem encrypt_ok_iff (nonce plaintext : Bytes) (encrypted : EncryptedSecret) :
    encrypt gcm nonce plaintext = .ok encrypted ↔ encrypted.version = cipherVersion ∧
      encrypted.nonce = nonce ∧ gcm.encrypt nonce plaintext none = .ok encrypted.ciphertext := by
  simp only [encrypt, except_bind_ok_iff, encryptedSecret_new_ok_iff]
  constructor
  · intro h
    obtain ⟨ciphertext, hencrypt, hversion, hnonce, rfl⟩ := h
    exact ⟨hversion, hnonce, hencrypt⟩
  · intro h
    obtain ⟨hversion, hnonce, hencrypt⟩ := h
    exact ⟨_, hencrypt, hversion, hnonce, rfl⟩

/-- The row that a store writes. -/
def rowOf (id : PyStr) (encrypted : EncryptedSecret) : VaultRow :=
  ⟨.text (utf8 id), .integer encrypted.version, .blob encrypted.nonce, .blob encrypted.ciphertext⟩

theorem insert_ok_iff (rows rows' : List VaultRow) (row : VaultRow) :
    insert rows row = .ok rows' ↔ (∀ r ∈ rows, r.id ≠ row.id) ∧ rows' = rows ++ [row] := by
  unfold insert
  by_cases h : ∃ r ∈ rows, r.id = row.id
  · rw [if_pos (by simpa using h)]
    obtain ⟨r, hr, hid⟩ := h
    exact ⟨nofun, fun he => absurd hid (he.1 r hr)⟩
  · rw [if_neg (by simpa using h), Except.ok.injEq, eq_comm]
    push Not at h
    exact ⟨fun he => ⟨h, he⟩, And.right⟩

theorem store_ok_iff {available : Bool} {nonce plaintext : Bytes} {rows' : List VaultRow} :
    store gcm available rows nonce ref plaintext = .ok rows' ↔
      available = true ∧ encodable ref.id = true ∧ (∀ r ∈ rows, r.id ≠ .text (utf8 ref.id)) ∧
        ∃ encrypted, encrypt gcm nonce plaintext = .ok encrypted ∧
          rows' = rows ++ [rowOf ref.id encrypted] := by
  have hfits : ∀ encrypted, encrypt gcm nonce plaintext = .ok encrypted →
      bindParameter (.int encrypted.version) = .ok (.integer encrypted.version) := by
    intro encrypted h
    rw [((encrypt_ok_iff _ _ _).mp h).1]
    rfl
  simp only [store, except_bind_ok_iff, catchException, mapError_ok_iff]
  constructor
  · intro h
    obtain ⟨encrypted, hencrypt, h⟩ := h
    split_ifs at h with havailable
    simp only [except_bind_ok_iff, bindParameter_str_ok_iff, hfits _ hencrypt, Except.ok.injEq,
      insert_ok_iff] at h
    obtain ⟨_, ⟨hid, rfl⟩, _, rfl, hfresh, rfl⟩ := h
    exact ⟨by simpa using havailable, hid, hfresh, encrypted, hencrypt, rfl⟩
  · intro h
    obtain ⟨rfl, hid, hfresh, encrypted, hencrypt, rfl⟩ := h
    refine ⟨encrypted, hencrypt, ?_⟩
    rw [if_neg (by simp)]
    simp only [except_bind_ok_iff, bindParameter_str_ok_iff, hfits _ hencrypt, Except.ok.injEq,
      insert_ok_iff]
    exact ⟨_, ⟨hid, rfl⟩, _, rfl, hfresh, rfl⟩

/-- The row holds an encryption of the plaintext under the id. -/
def Holds (log : List Encryption) (row : VaultRow) (entry : PyStr × Bytes) : Prop :=
  encodable entry.1 = true ∧ row.id = .text (utf8 entry.1) ∧
    ∃ e ∈ log, Carries row e ∧ e.plaintext = entry.2

theorem Holds.mono {row : VaultRow} {entry : PyStr × Bytes} (h : Holds log row entry)
    (hsub : ∀ e ∈ log, e ∈ log') : Holds log' row entry := by
  obtain ⟨hencodes, hid, e, he, hcarries, hplaintext⟩ := h
  exact ⟨hencodes, hid, e, hsub e he, hcarries, hplaintext⟩

/-- What holds after every run of stores. -/
structure Sound (state : VaultState) : Prop where
  logged : ∀ e ∈ state.log, e.nonce.length = 12 ∧ e.associatedData = none
  written : List.Forall₂ (Holds state.log) state.rows state.stored
  ids : (state.stored.map Prod.fst).Nodup

theorem mem_logged {call : StoreCall} {e : Encryption} (h : e ∈ logged gcm call) :
    e.nonce = call.nonce ∧ e.associatedData = none := by
  unfold logged at h
  split at h
  · rw [List.mem_singleton.mp h]
    exact ⟨rfl, rfl⟩
  · cases h

theorem Sound.fresh (h : Sound state) (href : ∀ r ∈ state.rows, r.id ≠ .text (utf8 ref.id)) :
    ref.id ∉ state.stored.map Prod.fst := by
  have hwritten := h.written
  revert href
  generalize state.rows = rows at hwritten
  generalize state.stored = stored at hwritten
  intro href hmem
  induction hwritten with
  | nil => cases hmem
  | cons hrow hrest ih =>
    rw [List.map_cons, List.mem_cons] at hmem
    rcases hmem with heq | hmem
    · exact href _ (List.mem_cons_self ..) (by rw [heq, hrow.2.1])
    · exact ih (fun r hr => href r (List.mem_cons_of_mem _ hr)) hmem

theorem step_sound (h : Sound state) (call : StoreCall) : Sound (step gcm state call) := by
  have hlogged : ∀ e ∈ state.log ++ logged gcm call,
      e.nonce.length = 12 ∧ e.associatedData = none := by
    intro e he
    rcases List.mem_append.mp he with he | he
    · exact h.logged e he
    · obtain ⟨hnonce, hdata⟩ := mem_logged he
      exact ⟨by rw [hnonce, call.nonce_length], hdata⟩
  have hwritten : List.Forall₂ (Holds (state.log ++ logged gcm call)) state.rows state.stored :=
    h.written.imp fun row entry hrow => hrow.mono fun e he => List.mem_append_left _ he
  unfold step
  dsimp only
  cases hstore : store gcm call.available state.rows call.nonce call.credentialRef
    call.plaintext with
  | error e => exact ⟨hlogged, hwritten, h.ids⟩
  | ok rows =>
    obtain ⟨-, hencodes, hfresh, encrypted, hencrypt, rfl⟩ := store_ok_iff.mp hstore
    obtain ⟨hversion, hnonce, hencrypted⟩ := (encrypt_ok_iff _ _ _).mp hencrypt
    refine ⟨hlogged, List.rel_append hwritten (.cons ⟨hencodes, rfl, ?_⟩ .nil), ?_⟩
    · refine ⟨⟨call.nonce, call.plaintext, none, encrypted.ciphertext⟩, ?_, ⟨?_, ?_, rfl⟩, rfl⟩
      · refine List.mem_append_right _ ?_
        rw [logged, hencrypted]
        exact List.mem_singleton_self _
      · rw [rowOf, hversion]
      · rw [rowOf, hnonce]
    · rw [List.map_append, List.map_singleton]
      refine List.Nodup.append h.ids (List.nodup_singleton _) ?_
      rw [List.disjoint_singleton]
      exact h.fresh hfresh

theorem after_sound (gcm : AesGcm) (calls : List StoreCall) : Sound (after gcm calls) := by
  have hrun : ∀ state, Sound state → Sound (calls.foldl (step gcm) state) := by
    induction calls with
    | nil => exact fun _ h => h
    | cons call calls ih => exact fun state h => ih _ (step_sound h call)
  exact hrun _ ⟨by simp, .nil, List.nodup_nil⟩

/-- The plaintext that was stored under an id. -/
def plaintextOf (stored : List (PyStr × Bytes)) (id : PyStr) : Option Bytes :=
  (stored.find? (·.1 = id)).map Prod.snd

/-- In the rows that the vault left, the row of an id is the one stored under it. -/
theorem rowFor_stored (h : Sound state) (href : encodable ref.id = true) :
    (rowFor state.rows ref = none ∧ plaintextOf state.stored ref.id = none) ∨
      ∃ row e, rowFor state.rows ref = some row ∧ e ∈ state.log ∧ Carries row e ∧
        plaintextOf state.stored ref.id = some e.plaintext := by
  have hwritten := h.written
  unfold rowFor plaintextOf
  generalize state.rows = rows at hwritten
  generalize state.stored = stored at hwritten
  induction hwritten with
  | nil => exact .inl ⟨rfl, rfl⟩
  | @cons row entry rows stored hrow hrest ih =>
    obtain ⟨hencodes, hid, e, he, hcarries, hplaintext⟩ := hrow
    by_cases heq : entry.1 = ref.id
    · right
      refine ⟨row, e, ?_, he, hcarries, ?_⟩
      · rw [List.find?_cons_of_pos]
        rw [hid, heq]
        simp
      · rw [List.find?_cons_of_pos (by simpa using heq), hplaintext]
        rfl
    · rw [List.find?_cons_of_neg, List.find?_cons_of_neg (by simpa using heq)]
      · exact ih
      · rw [hid, decide_eq_true_eq, SqlValue.text.injEq]
        exact fun hbytes => heq (utf8_injective hencodes href hbytes)

/-- As long as nobody else writes the rows, an id is resolved to what was stored
under it. -/
theorem resolve_stored {calls : List StoreCall} (hgenuine : Genuine gcm (after gcm calls).log)
    (href : encodable ref.id = true) : resolve gcm true (after gcm calls).rows ref =
      match plaintextOf (after gcm calls).stored ref.id with
      | none => .error (vaultError "credential does not exist")
      | some plaintext => .ok ⟨plaintext⟩ := by
  have hsound := after_sound gcm calls
  rcases rowFor_stored hsound href with ⟨hrow, hstored⟩ | ⟨row, e, hrow, he, hcarries, hstored⟩
  · rw [resolve_encodable href, hrow, hstored]
  · obtain ⟨hlength, hdata⟩ := hsound.logged e he
    rw [hstored]
    exact (resolve_ok_iff hgenuine href _).mpr ⟨row, hrow, e, he, hcarries, hlength, hdata, rfl⟩

end Storing

section Substitution

/-- `resolve` raises a `VaultError`, or returns the plaintext stored under the id. -/
def Faithful (stored : List (PyStr × Bytes)) (ref : CredentialRef)
    (r : Except PyExn BrokerCredential) : Prop :=
  (∃ e, r = .error e ∧ isVaultError e = true) ∨
    ∃ plaintext, r = .ok ⟨plaintext⟩ ∧ plaintextOf stored ref.id = some plaintext

/-- The vault never substitutes a credential exactly when the id can be bound and its
row, whoever wrote it, carries no encryption of a plaintext that was not stored under
the id. Nothing in the code rules such a row out. -/
theorem resolve_faithful_iff (gcm : AesGcm) (calls : List StoreCall)
    (hgenuine : Genuine gcm (after gcm calls).log) (available : Bool) (rows : List VaultRow)
    (ref : CredentialRef) :
    Faithful (after gcm calls).stored ref (resolve gcm available rows ref) ↔
      available = false ∨ (encodable ref.id = true ∧ ∀ row, rowFor rows ref = some row →
        ∀ e ∈ (after gcm calls).log, Carries row e →
          plaintextOf (after gcm calls).stored ref.id = some e.plaintext) := by
  have hsound := after_sound gcm calls
  cases available with
  | false =>
    simp only [true_or, iff_true]
    exact .inl ⟨_, resolve_unavailable, vaultError_isVaultError _⟩
  | true =>
    cases href : encodable ref.id with
    | false =>
      rw [resolve_unencodable href]
      simp [Faithful, isVaultError, bindExn, raised]
    | true =>
      simp only [Bool.true_eq_false, false_or, true_and]
      constructor
      · intro h row hrow e he hcarries
        obtain ⟨hlength, hdata⟩ := hsound.logged e he
        have hresolved : resolve gcm true rows ref = .ok ⟨e.plaintext⟩ :=
          (resolve_ok_iff hgenuine href _).mpr ⟨row, hrow, e, he, hcarries, hlength, hdata, rfl⟩
        rcases h with ⟨error, herror, -⟩ | ⟨plaintext, hok, hstored⟩
        · rw [hresolved] at herror
          cases herror
        · rw [hresolved] at hok
          cases hok
          exact hstored
      · intro h
        cases hresolve : resolve gcm true rows ref with
        | error error => exact .inl ⟨error, rfl, resolve_error hgenuine href hresolve⟩
        | ok credential =>
          obtain ⟨row, hrow, e, he, hcarries, -, -, hplaintext⟩ :=
            (resolve_ok_iff hgenuine href credential.value).mp hresolve
          refine .inr ⟨credential.value, rfl, ?_⟩
          rw [h row hrow e he hcarries, hplaintext]

/-- A cipher that appends a tag, and decrypts what stands in a log. -/
def exampleGcm (log : List Encryption) : AesGcm where
  encrypt _ plaintext _ := .ok (plaintext ++ List.replicate 16 0)
  decrypt nonce ciphertext data :=
    let plaintext := ciphertext.take (ciphertext.length - 16)
    if ⟨nonce, plaintext, data, ciphertext⟩ ∈ log then .ok plaintext
    else .error (raised .invalidTag [])

theorem exampleGcm_genuine {log : List Encryption}
    (h : ∀ e ∈ log, e.ciphertext.take (e.ciphertext.length - 16) = e.plaintext ∧
      e.ciphertext ≠ []) : Genuine (exampleGcm log) log where
  decrypts nonce ciphertext data plaintext := by
    simp only [exampleGcm]
    constructor
    · intro hok
      split_ifs at hok with hmem
      cases hok
      exact hmem
    · intro hmem
      have hplaintext := (h _ hmem).1
      dsimp only at hplaintext
      rw [hplaintext, if_pos hmem]
  tagged e he := (h e he).2
  failures nonce ciphertext data e herror := by
    simp only [exampleGcm] at herror
    split_ifs at herror
    cases herror
    rfl

def exampleNonce (n : UInt8) : Bytes := n :: List.replicate 11 0

theorem exampleNonce_length (n : UInt8) : (exampleNonce n).length = 12 := rfl

def exampleRef (id : PyStr) (h : blank id = false) : CredentialRef := ⟨id, h⟩

/-- The passwords `[1]` and `[2]` of two targets. -/
def exampleCalls : List StoreCall :=
  [⟨true, exampleNonce 1, exampleNonce_length 1, exampleRef (py "a") (by decide), [1]⟩,
    ⟨true, exampleNonce 2, exampleNonce_length 2, exampleRef (py "b") (by decide), [2]⟩]

def exampleLog : List Encryption :=
  [⟨exampleNonce 1, [1], none, 1 :: List.replicate 16 0⟩,
    ⟨exampleNonce 2, [2], none, 2 :: List.replicate 16 0⟩]

/-- The rows with the encrypted values of the two ids swapped. -/
def exampleSwapped : List VaultRow :=
  match (after (exampleGcm exampleLog) exampleCalls).rows with
  | [a, b] => [{ b with id := a.id }, { a with id := b.id }]
  | rows => rows

theorem exampleLog_genuine :
    Genuine (exampleGcm exampleLog) (after (exampleGcm exampleLog) exampleCalls).log := by
  have hlog : (after (exampleGcm exampleLog) exampleCalls).log = exampleLog := by decide +kernel
  rw [hlog]
  exact exampleGcm_genuine (by decide)

theorem resolve_faithful_iff_example :
    Faithful (after (exampleGcm exampleLog) exampleCalls).stored
      (exampleRef (py "a") (by decide))
      (resolve (exampleGcm exampleLog) true (after (exampleGcm exampleLog) exampleCalls).rows
        (exampleRef (py "a") (by decide))) := by
  refine (resolve_faithful_iff _ exampleCalls exampleLog_genuine true _ _).mpr
    (.inr ⟨by decide, ?_⟩)
  have hcarries : ∀ row ∈ rowFor (after (exampleGcm exampleLog) exampleCalls).rows
      (exampleRef (py "a") (by decide)), ∀ e ∈ (after (exampleGcm exampleLog) exampleCalls).log,
      Carries row e → plaintextOf (after (exampleGcm exampleLog) exampleCalls).stored (py "a") =
        some e.plaintext := by decide +kernel
  exact hcarries

/-- After a swap of the two rows, `a` is resolved to the password stored under `b`. -/
theorem resolve_swapped :
    ¬ ∀ (gcm : AesGcm) (calls : List StoreCall), Genuine gcm (after gcm calls).log →
      ∀ (rows : List VaultRow) (ref : CredentialRef),
        Faithful (after gcm calls).stored ref (resolve gcm true rows ref) := by
  intro h
  have hfaithful := h _ exampleCalls exampleLog_genuine exampleSwapped
    (exampleRef (py "a") (by decide))
  have hresolved : resolve (exampleGcm exampleLog) true exampleSwapped
      (exampleRef (py "a") (by decide)) = .ok ⟨[2]⟩ := by decide +kernel
  have hstored : plaintextOf (after (exampleGcm exampleLog) exampleCalls).stored (py "a") =
      some [1] := by decide +kernel
  rw [hresolved] at hfaithful
  rcases hfaithful with ⟨e, herror, -⟩ | ⟨plaintext, hok, hplaintext⟩
  · cases herror
  · cases hok
    rw [exampleRef, hstored] at hplaintext
    cases hplaintext

end Substitution

end PamMvp.CredentialVault
