import PamMvp.SshConnecting
import PamMvp.Sha256

/-!
# Pinned host keys

The provisioning tool accepts a pin by decoding it and encoding the result again; the
connector compares the pin with the fingerprint it computes from a key. Both use the same
encoding, so a pin denotes one digest, and a key passes exactly when it has that digest.
-/
namespace PamMvp.HostKeyPins
open InteractionPrograms PythonText DomainModel PamCalls SshConnecting Sha256

/-- The value of a digit of the alphabet. -/
def sextetValue (c : CodePoint) : Option ℕ := base64Alphabet.idxOf? c

def pad : CodePoint := 61

/-- Four digits make three bytes. -/
def decodeQuad (a b c d : CodePoint) : Option Bytes := do
  let n := (← sextetValue a) * 262144 + (← sextetValue b) * 4096 + (← sextetValue c) * 64 +
    (← sextetValue d)
  return [.ofNat (n / 65536), .ofNat (n / 256), .ofNat n]

/-- Three digits before a pad make two bytes; the last two bits are dropped. -/
def decodeTriple (a b c : CodePoint) : Option Bytes := do
  let n := (← sextetValue a) * 4096 + (← sextetValue b) * 64 + (← sextetValue c)
  return [.ofNat (n / 1024), .ofNat (n / 4)]

/-- Two digits before two pads make one byte; the last four bits are dropped. -/
def decodePair (a b : CodePoint) : Option Bytes := do
  let n := (← sextetValue a) * 64 + (← sextetValue b)
  return [.ofNat (n / 16)]

/-- `base64.b64decode(text, validate=True)`; `none` is `binascii.Error`, a `ValueError`.
A pad stands only at the end of the last group of four. -/
def b64decode : PyStr → Option Bytes
  | [] => some []
  | a :: b :: c :: d :: rest =>
    if d = pad ∧ rest = [] then if c = pad then decodePair a b else decodeTriple a b c
    else do return (← decodeQuad a b c d) ++ (← b64decode rest)
  | _ => none

example : b64decode (py "TWFu/w==") = some [77, 97, 110, 255] := by decide +kernel

example : b64decode (py "TWFu/w=") = none := by decide +kernel

/-- `base64.b64encode(data).decode("ascii").rstrip("=")`. -/
def unpadded (data : Bytes) : PyStr := (b64encode data).rdropWhile (· ∈ py "=")

/-- `value.removeprefix("SHA256:")`. -/
def encodedDigest (value : PyStr) : PyStr :=
  if (py "SHA256:").isPrefixOf value then value.drop (py "SHA256:").length else value

/-- The `try` body of `_parse_openssh_sha256_fingerprint`. -/
def parseFingerprint (value : PyStr) : Except PyExn HostKeyFingerprint := do
  let fingerprint ← HostKeyFingerprint.new value
  let encoded := encodedDigest value
  if encoded.length ≠ 43 ∨ pad ∈ encoded then .error (raised .valueError [])
  else
    match b64decode (encoded ++ py "=") with
    | none => .error (raised .valueError (py "Only base64 data is allowed"))
    | some digest =>
      if digest.length ≠ 32 then .error (raised .valueError [])
      else if ← compareDigest encoded (unpadded digest) then return fingerprint
      else .error (raised .valueError [])

/-- `_parse_openssh_sha256_fingerprint`. -/
def parseOpensshSha256Fingerprint (value : PyStr) : Except PyExn HostKeyFingerprint :=
  (parseFingerprint value).mapError fun e =>
    if e.cls ∈ [ExnClass.typeError, .valueError, .unicodeEncodeError] then
      raised .labProvisioningError (py "target host-key fingerprint is malformed")
    else e

section Encoding

theorem sextetValue_table : ∀ n : Fin 64, sextetValue (sextet n.val) = some n.val := by
  decide +kernel

theorem sextetValue_sextet (n : ℕ) : sextetValue (sextet n) = some (n % 64) := by
  have hlt : n % 64 < 64 := Nat.mod_lt _ (by decide)
  have hmod : sextet n = sextet (n % 64) := by simp [sextet]
  rw [hmod]
  exact sextetValue_table ⟨n % 64, hlt⟩

theorem sextet_mem (n : ℕ) : sextet n ∈ base64Alphabet := by
  have hlt : n % 64 < base64Alphabet.length := Nat.mod_lt _ (by decide)
  rw [sextet, List.getD_eq_getElem?_getD, List.getElem?_eq_getElem hlt, Option.getD_some]
  exact List.getElem_mem hlt

theorem ascii_alphabet {text : PyStr} (h : ∀ c ∈ text, c ∈ base64Alphabet) :
    ascii text = true := by
  have halphabet : ascii base64Alphabet = true := by decide
  simp only [ascii, List.all_eq_true] at halphabet ⊢
  exact fun c hc => halphabet c (h c hc)

theorem py_pad : py "=" = [pad] := by decide

theorem py_pad_pad : py "==" = [pad, pad] := by decide

theorem pad_not_mem : pad ∉ base64Alphabet := by decide

theorem sextet_ne_pad (n : ℕ) : sextet n ≠ pad := by
  intro h
  exact pad_not_mem (h ▸ sextet_mem n)

private theorem ofNat_byte (a : UInt8) {n : ℕ} (h : n % 256 = a.toNat) : UInt8.ofNat n = a := by
  rw [← UInt8.toNat_inj, UInt8.toNat_ofNat']
  exact h

theorem decodeQuad_sextets (a b c : UInt8) {n : ℕ}
    (hn : n = a.toNat * 65536 + b.toNat * 256 + c.toNat) :
    decodeQuad (sextet (n / 262144)) (sextet (n / 4096)) (sextet (n / 64)) (sextet n) =
      some [a, b, c] := by
  have ha := a.toNat_lt
  have hb := b.toNat_lt
  have hc := c.toNat_lt
  have hvalue : n / 262144 % 64 * 262144 + n / 4096 % 64 * 4096 + n / 64 % 64 * 64 +
      n % 64 = n := by
    omega
  simp only [decodeQuad, sextetValue_sextet, Option.bind_eq_bind, Option.bind_some, hvalue]
  rw [ofNat_byte a (by omega), ofNat_byte b (by omega), ofNat_byte c (by omega)]
  rfl

theorem decodeTriple_sextets (a b : UInt8) {n : ℕ} (hn : n = (a.toNat * 256 + b.toNat) * 4) :
    decodeTriple (sextet (n / 4096)) (sextet (n / 64)) (sextet n) = some [a, b] := by
  have ha := a.toNat_lt
  have hb := b.toNat_lt
  have hvalue : n / 4096 % 64 * 4096 + n / 64 % 64 * 64 + n % 64 = n := by omega
  simp only [decodeTriple, sextetValue_sextet, Option.bind_eq_bind, Option.bind_some, hvalue]
  rw [ofNat_byte a (by omega), ofNat_byte b (by omega)]
  rfl

theorem decodePair_sextets (a : UInt8) :
    decodePair (sextet (a.toNat * 16 / 64)) (sextet (a.toNat * 16)) = some [a] := by
  have ha := a.toNat_lt
  have hvalue : a.toNat * 16 / 64 % 64 * 64 + a.toNat * 16 % 64 = a.toNat * 16 := by omega
  simp only [decodePair, sextetValue_sextet, Option.bind_eq_bind, Option.bind_some, hvalue]
  rw [ofNat_byte a (by omega)]
  rfl

theorem b64decode_b64encode (data : Bytes) : b64decode (b64encode data) = some data := by
  induction data using b64encode.induct with
  | case1 a b c rest ih =>
    simp only [b64encode, List.cons_append, List.nil_append, b64decode]
    rw [if_neg fun h => sextet_ne_pad _ h.1, decodeQuad_sextets a b c rfl, ih]
    rfl
  | case2 a b =>
    simp only [b64encode, py_pad, List.cons_append, List.nil_append]
    rw [b64decode, if_pos ⟨rfl, rfl⟩, if_neg (sextet_ne_pad _), decodeTriple_sextets a b rfl]
  | case3 a =>
    simp only [b64encode, py_pad_pad, List.cons_append, List.nil_append]
    rw [b64decode, if_pos ⟨rfl, rfl⟩, if_pos rfl, decodePair_sextets a]
  | case4 => rfl

/-- Of a length that leaves two bytes over, an encoding ends in its only pad. -/
theorem b64encode_of_two_over (data : Bytes) (h : data.length % 3 = 2) : ∃ body : PyStr,
    b64encode data = body ++ py "=" ∧ (∀ c ∈ body, c ∈ base64Alphabet) ∧
      3 * body.length = 4 * data.length + 1 := by
  induction data using b64encode.induct with
  | case1 a b c rest ih =>
    have hrest : rest.length % 3 = 2 := by
      simp only [List.length_cons] at h
      omega
    obtain ⟨body, hencoded, hbody, hlength⟩ := ih hrest
    let n := a.toNat * 65536 + b.toNat * 256 + c.toNat
    refine ⟨[sextet (n / 262144), sextet (n / 4096), sextet (n / 64), sextet n] ++ body, ?_, ?_, ?_⟩
    · rw [b64encode, hencoded, List.append_assoc]
    · intro c hc
      rcases List.mem_append.mp hc with hc | hc
      · simp only [List.mem_cons, List.not_mem_nil, or_false] at hc
        rcases hc with rfl | rfl | rfl | rfl <;> exact sextet_mem _
      · exact hbody c hc
    · simp only [List.length_append, List.length_cons, List.length_nil]
      omega
  | case2 a b =>
    let n := (a.toNat * 256 + b.toNat) * 4
    refine ⟨[sextet (n / 4096), sextet (n / 64), sextet n], rfl, ?_, rfl⟩
    intro c hc
    simp only [List.mem_cons, List.not_mem_nil, or_false] at hc
    rcases hc with rfl | rfl | rfl <;> exact sextet_mem _
  | case3 a => simp at h
  | case4 => simp at h

/-- The encoding of a digest is 43 digits and one pad. -/
theorem unpadded_digest {digest : Bytes} (h : digest.length = 32) :
    b64encode digest = unpadded digest ++ py "=" ∧
      (∀ c ∈ unpadded digest, c ∈ base64Alphabet) ∧ (unpadded digest).length = 43 := by
  obtain ⟨body, hencoded, hbody, hlength⟩ := b64encode_of_two_over digest (by omega)
  have hstripped : unpadded digest = body := by
    rw [unpadded, hencoded, py_pad, List.rdropWhile_concat_pos _ _ _ (by decide),
      List.rdropWhile_eq_self_iff]
    intro hne hlast
    refine pad_not_mem (hbody pad ?_)
    have hpad : body.getLast hne = pad :=
      List.mem_singleton.mp (of_decide_eq_true hlast)
    exact hpad ▸ List.getLast_mem hne
  rw [hstripped]
  exact ⟨hencoded, hbody, by omega⟩

theorem unpadded_injective {digest digest' : Bytes} (h : digest.length = 32)
    (h' : digest'.length = 32) (heq : unpadded digest = unpadded digest') : digest = digest' := by
  have hencoded : b64encode digest = b64encode digest' := by
    rw [(unpadded_digest h).1, (unpadded_digest h').1, heq]
  have hdecoded := congrArg b64decode hencoded
  rw [b64decode_b64encode, b64decode_b64encode] at hdecoded
  exact Option.some.inj hdecoded

end Encoding

section Parsing

/-- The pin denotes the digest. -/
structure Denotes (pin : PyStr) (digest : Bytes) : Prop where
  length : digest.length = 32
  text : pin = py "SHA256:" ++ unpadded digest

theorem Denotes.unique {pin : PyStr} {digest digest' : Bytes} (h : Denotes pin digest)
    (h' : Denotes pin digest') : digest = digest' :=
  unpadded_injective h.length h'.length
    (List.append_cancel_left (h.text.symm.trans h'.text))

theorem encodedDigest_append (encoded : PyStr) :
    encodedDigest (py "SHA256:" ++ encoded) = encoded := by
  rw [encodedDigest, if_pos (List.isPrefixOf_iff_prefix.mpr (List.prefix_append _ _)),
    List.drop_left]

theorem fingerprint_new_ok_iff (value : PyStr) (fingerprint : HostKeyFingerprint) :
    HostKeyFingerprint.new value = .ok fingerprint ↔ fingerprint.value = value := by
  unfold HostKeyFingerprint.new
  split
  · constructor
    · intro h
      cases h
      rfl
    · intro h
      subst h
      rfl
  · rename_i hprefix
    constructor
    · intro h
      cases h
    · intro h
      exact absurd (h ▸ fingerprint.value_prefix) hprefix

theorem compareDigest_alphabet {a b : PyStr} (ha : ∀ c ∈ a, c ∈ base64Alphabet)
    (hb : ∀ c ∈ b, c ∈ base64Alphabet) : compareDigest a b = .ok (decide (a = b)) := by
  rw [compareDigest, ascii_alphabet ha, ascii_alphabet hb]
  rfl

theorem compareDigest_ok {a b : PyStr} {equal : Bool} (h : compareDigest a b = .ok equal) :
    equal = true ↔ a = b := by
  unfold compareDigest at h
  split at h
  · cases h
    exact decide_eq_true_iff
  · cases h

theorem parseFingerprint_denotes {pin : PyStr} {fingerprint : HostKeyFingerprint}
    (h : parseFingerprint pin = .ok fingerprint) :
    fingerprint.value = pin ∧ ∃ digest, Denotes pin digest := by
  obtain ⟨accepted, hnew, hbody⟩ := (except_bind_ok_iff _ _ _).mp h
  have hvalue := (fingerprint_new_ok_iff pin accepted).mp hnew
  obtain ⟨encoded, hpin⟩ : py "SHA256:" <+: pin :=
    List.isPrefixOf_iff_prefix.mp (hvalue ▸ accepted.value_prefix)
  subst hpin
  simp only [encodedDigest_append] at hbody
  split at hbody
  · cases hbody
  · split at hbody
    · cases hbody
    · rename_i digest _
      split at hbody
      · cases hbody
      · rename_i hlength
        obtain ⟨equal, hcompare, hreturn⟩ := (except_bind_ok_iff _ _ _).mp hbody
        cases equal with
        | false => cases hreturn
        | true =>
          cases hreturn
          have hencoded := (compareDigest_ok hcompare).mp rfl
          exact ⟨hvalue, digest, not_not.mp hlength, congrArg _ hencoded⟩

theorem parseFingerprint_of_denotes {fingerprint : HostKeyFingerprint} {digest : Bytes}
    (h : Denotes fingerprint.value digest) :
    parseFingerprint fingerprint.value = .ok fingerprint := by
  obtain ⟨hencoded, halphabet, hlength⟩ := unpadded_digest h.length
  have hpad : ¬ ((unpadded digest).length ≠ 43 ∨ pad ∈ unpadded digest) := by
    intro hbad
    rcases hbad with hbad | hbad
    · exact hbad hlength
    · exact pad_not_mem (halphabet pad hbad)
  refine (except_bind_ok_iff _ _ _).mpr
    ⟨fingerprint, (fingerprint_new_ok_iff _ _).mpr rfl, ?_⟩
  simp only [h.text, encodedDigest_append]
  rw [if_neg hpad, ← hencoded, b64decode_b64encode]
  simp only [if_neg (not_not_intro h.length), compareDigest_alphabet halphabet halphabet]
  rfl

theorem compareDigest_error {a b : PyStr} {e : PyExn} (h : compareDigest a b = .error e) :
    e.cls = .typeError := by
  unfold compareDigest at h
  split at h
  · cases h
  · cases h
    rfl

theorem fingerprint_new_error {value : PyStr} {e : PyExn}
    (h : HostKeyFingerprint.new value = .error e) : e.cls = .valueError := by
  unfold HostKeyFingerprint.new at h
  split at h
  · cases h
  · cases h
    rfl

theorem parseFingerprint_error {pin : PyStr} {e : PyExn} (h : parseFingerprint pin = .error e) :
    e.cls ∈ [ExnClass.typeError, .valueError, .unicodeEncodeError] := by
  rcases except_bind_error h with hnew | ⟨accepted, -, hbody⟩
  · simp [fingerprint_new_error hnew]
  · simp only at hbody
    split at hbody
    · cases hbody
      simp [raised]
    · split at hbody
      · cases hbody
        simp [raised]
      · split at hbody
        · cases hbody
          simp [raised]
        · rcases except_bind_error hbody with hcompare | ⟨equal, -, hreturn⟩
          · simp [compareDigest_error hcompare]
          · cases equal with
            | true => cases hreturn
            | false =>
              cases hreturn
              simp [raised]

/-- The only error that the tool lets out. -/
def malformed : PyExn :=
  raised .labProvisioningError (py "target host-key fingerprint is malformed")

theorem parse_ok_iff (pin : PyStr) (fingerprint : HostKeyFingerprint) :
    parseOpensshSha256Fingerprint pin = .ok fingerprint ↔
      fingerprint.value = pin ∧ ∃ digest, Denotes pin digest := by
  rw [parseOpensshSha256Fingerprint, mapError_ok_iff]
  constructor
  · exact parseFingerprint_denotes
  · intro h
    obtain ⟨rfl, digest, hdenotes⟩ := h
    exact parseFingerprint_of_denotes hdenotes

theorem parse_error_iff (pin : PyStr) :
    parseOpensshSha256Fingerprint pin = .error malformed ↔ ¬ ∃ digest, Denotes pin digest := by
  constructor
  · intro h hdenotes
    obtain ⟨digest, hdigest⟩ := hdenotes
    have hprefix : (py "SHA256:").isPrefixOf pin = true :=
      List.isPrefixOf_iff_prefix.mpr ⟨unpadded digest, hdigest.text.symm⟩
    have hok := (parse_ok_iff pin ⟨pin, hprefix⟩).mpr ⟨rfl, digest, hdigest⟩
    rw [h] at hok
    cases hok
  · intro h
    cases hparse : parseFingerprint pin with
    | ok fingerprint => exact absurd (parseFingerprint_denotes hparse).2 h
    | error e =>
      rw [parseOpensshSha256Fingerprint, hparse]
      simp only [Except.mapError, if_pos (parseFingerprint_error hparse), malformed]

theorem calculated_denotes (keyBlob : Bytes) :
    Denotes (calculateSha256Fingerprint sha256 keyBlob).value (sha256 keyBlob) :=
  ⟨sha256_length keyBlob, rfl⟩

end Parsing

section Verification

theorem compareDigest_pins {pin pin' : PyStr} {digest digest' : Bytes} (h : Denotes pin digest)
    (h' : Denotes pin' digest') : compareDigest pin pin' = .ok (decide (digest = digest')) := by
  have hscheme : ascii (py "SHA256:") = true := by decide
  have hascii {pin : PyStr} {digest : Bytes} (h : Denotes pin digest) : ascii pin = true := by
    have hdigits := ascii_alphabet (unpadded_digest h.length).2.1
    rw [ascii, h.text, List.all_append]
    exact Bool.and_eq_true_iff.mpr ⟨hscheme, hdigits⟩
  rw [compareDigest, hascii h, hascii h']
  refine congrArg Except.ok (decide_eq_decide.mpr ⟨fun heq => ?_, fun heq => ?_⟩)
  · exact h.unique (heq ▸ h')
  · rw [h.text, h'.text, heq]

theorem run_call_iff {S : Signature} {σ α : Type} (c : S.Call) (k : Reply S c → Prog S σ α) (m : σ)
    (r : Reply S c) (tr : List (Event S)) (o : Outcome S α) (m' : σ) :
    (Prog.call c k).Run m (⟨c, r⟩ :: tr) o m' ↔ (k r).Run m tr o m' := by
  constructor
  · intro h
    obtain ⟨r', tr', heq, hrun⟩ := h
    cases heq
    exact hrun
  · intro h
    exact ⟨r, tr, rfl, h⟩

/-- What verifying a key does when its blob is read: it compares digests. -/
theorem verify_run_iff {target : Target} {digest : Bytes}
    (hpin : Denotes target.expectedHostKey.value digest) (serverKey : Handle) (keyBlob : Bytes)
    (m m' : Memory) (o : PamOutcome Unit) :
    (verifyPinnedHostKey sha256 target serverKey).Run m [⟨.asbytes serverKey, .ok keyBlob⟩] o m' ↔
      m' = m ∧ o = if sha256 keyBlob = digest then .ret () else
        .raise (raised .hostKeyMismatchError
          (py "SSH host key mismatch for target " ++ target.id)) := by
  have hcompare := compareDigest_pins (calculated_denotes keyBlob) hpin
  refine (run_call_iff _ _ _ _ _ _ _).trans ?_
  simp only [Prog.ofReply, Prog.bind]
  rw [hcompare]
  by_cases hdigest : sha256 keyBlob = digest
  · rw [if_pos hdigest, decide_eq_true hdigest]
    exact ⟨fun h => ⟨h.2.2, h.2.1⟩, fun h => ⟨rfl, h.2, h.1⟩⟩
  · rw [if_neg hdigest, decide_eq_false hdigest]
    exact ⟨fun h => ⟨h.2.2, h.2.1⟩, fun h => ⟨rfl, h.2, h.1⟩⟩

end Verification

/-- The parser accepts the fingerprints of digests and no other text, every computed
fingerprint among them, and a key passes an accepted pin when it has the pin's digest. -/
theorem pins_compare_as_digests :
    (∀ pin fingerprint, parseOpensshSha256Fingerprint pin = .ok fingerprint ↔
      fingerprint.value = pin ∧ ∃! digest, Denotes pin digest) ∧
    (∀ pin, (¬ ∃ digest, Denotes pin digest) →
      parseOpensshSha256Fingerprint pin = .error malformed) ∧
    (∀ keyBlob, parseOpensshSha256Fingerprint (calculateSha256Fingerprint sha256 keyBlob).value =
      .ok (calculateSha256Fingerprint sha256 keyBlob)) ∧
    ∀ (pin : PyStr) (target : Target),
      parseOpensshSha256Fingerprint pin = .ok target.expectedHostKey →
      ∃ digest, Denotes pin digest ∧ ∀ serverKey keyBlob m m' o,
        (verifyPinnedHostKey sha256 target serverKey).Run m
            [⟨.asbytes serverKey, .ok keyBlob⟩] o m' ↔
          m' = m ∧ o = if sha256 keyBlob = digest then .ret () else
            .raise (raised .hostKeyMismatchError
              (py "SSH host key mismatch for target " ++ target.id)) := by
  refine ⟨fun pin fingerprint => ?_, fun pin => (parse_error_iff pin).mpr, fun keyBlob => ?_, ?_⟩
  · refine (parse_ok_iff pin fingerprint).trans (and_congr_right fun _ => ?_)
    constructor
    · intro h
      obtain ⟨digest, hdigest⟩ := h
      exact ⟨digest, hdigest, fun other hother => hother.unique hdigest⟩
    · intro h
      exact h.exists
  · exact (parse_ok_iff _ _).mpr ⟨rfl, sha256 keyBlob, calculated_denotes keyBlob⟩
  · intro pin target hparse
    obtain ⟨hvalue, digest, hdigest⟩ := (parse_ok_iff _ _).mp hparse
    refine ⟨digest, hdigest, fun serverKey keyBlob m m' o => ?_⟩
    exact verify_run_iff (hvalue.symm ▸ hdigest) serverKey keyBlob m m' o

example : (parseOpensshSha256Fingerprint
    (py "SHA256:sN8IiNCiH3HWetmR/J3uRvPfer4s0AcIP3BebXieUuI")).isOk = true := by decide +kernel

-- The last digit carries two bits that no digest has.
example : (parseOpensshSha256Fingerprint
    (py "SHA256:sN8IiNCiH3HWetmR/J3uRvPfer4s0AcIP3BebXieUuJ")).isOk = false := by decide +kernel

end PamMvp.HostKeyPins
