import Mathlib.Algebra.Group.Nat.Defs
import PamMvp.PythonText

/-!
# SHA-256 and HMAC

Words are numbers below `2 ^ 32`. A message is padded, cut into blocks of 64
bytes and folded through the compression function; every digest has 32 bytes.
-/
namespace PamMvp.Sha256
open PythonText

def wordSize : ℕ := 2 ^ 32

/-- Rotation of a word to the right. -/
def rotr (n x : ℕ) : ℕ := x >>> n ||| (x <<< (32 - n)) % wordSize

def ch (x y z : ℕ) : ℕ := (x &&& y) ^^^ ((wordSize - 1 - x) &&& z)

def maj (x y z : ℕ) : ℕ := (x &&& y) ^^^ (x &&& z) ^^^ (y &&& z)

def bigSigma0 (x : ℕ) : ℕ := rotr 2 x ^^^ rotr 13 x ^^^ rotr 22 x

def bigSigma1 (x : ℕ) : ℕ := rotr 6 x ^^^ rotr 11 x ^^^ rotr 25 x

def smallSigma0 (x : ℕ) : ℕ := rotr 7 x ^^^ rotr 18 x ^^^ x >>> 3

def smallSigma1 (x : ℕ) : ℕ := rotr 17 x ^^^ rotr 19 x ^^^ x >>> 10

def roundConstants : List ℕ :=
  [0x428a2f98, 0x71374491, 0xb5c0fbcf, 0xe9b5dba5, 0x3956c25b, 0x59f111f1, 0x923f82a4,
    0xab1c5ed5, 0xd807aa98, 0x12835b01, 0x243185be, 0x550c7dc3, 0x72be5d74, 0x80deb1fe,
    0x9bdc06a7, 0xc19bf174, 0xe49b69c1, 0xefbe4786, 0x0fc19dc6, 0x240ca1cc, 0x2de92c6f,
    0x4a7484aa, 0x5cb0a9dc, 0x76f988da, 0x983e5152, 0xa831c66d, 0xb00327c8, 0xbf597fc7,
    0xc6e00bf3, 0xd5a79147, 0x06ca6351, 0x14292967, 0x27b70a85, 0x2e1b2138, 0x4d2c6dfc,
    0x53380d13, 0x650a7354, 0x766a0abb, 0x81c2c92e, 0x92722c85, 0xa2bfe8a1, 0xa81a664b,
    0xc24b8b70, 0xc76c51a3, 0xd192e819, 0xd6990624, 0xf40e3585, 0x106aa070, 0x19a4c116,
    0x1e376c08, 0x2748774c, 0x34b0bcb5, 0x391c0cb3, 0x4ed8aa4a, 0x5b9cca4f, 0x682e6ff3,
    0x748f82ee, 0x78a5636f, 0x84c87814, 0x8cc70208, 0x90befffa, 0xa4506ceb, 0xbef9a3f7,
    0xc67178f2]

structure HashState where
  a : ℕ
  b : ℕ
  c : ℕ
  d : ℕ
  e : ℕ
  f : ℕ
  g : ℕ
  h : ℕ

def initialState : HashState :=
  ⟨0x6a09e667, 0xbb67ae85, 0x3c6ef372, 0xa54ff53a,
    0x510e527f, 0x9b05688c, 0x1f83d9ab, 0x5be0cd19⟩

/-- One round with round constant `k` and message word `w`. -/
def round (s : HashState) (k w : ℕ) : HashState :=
  let t1 := s.h + bigSigma1 s.e + ch s.e s.f s.g + k + w
  let t2 := bigSigma0 s.a + maj s.a s.b s.c
  ⟨(t1 + t2) % wordSize, s.a, s.b, s.c, (s.d + t1) % wordSize, s.e, s.f, s.g⟩

/-- Extend the message words, kept last word first, by `n` more. -/
def extend : ℕ → List ℕ → List ℕ
  | 0, words => words
  | n + 1, words =>
    let next := (smallSigma1 (words.getD 1 0) + words.getD 6 0 + smallSigma0 (words.getD 14 0) +
      words.getD 15 0) % wordSize
    extend n (next :: words)

/-- Big-endian words of a block. -/
def wordsOf : Bytes → List ℕ
  | b₀ :: b₁ :: b₂ :: b₃ :: rest =>
    (b₀.toNat <<< 24 ||| b₁.toNat <<< 16 ||| b₂.toNat <<< 8 ||| b₃.toNat) :: wordsOf rest
  | _ => []

def compress (s : HashState) (block : Bytes) : HashState :=
  let words := (extend 48 (wordsOf block).reverse).reverse
  let r := (roundConstants.zip words).foldl (fun s kw => round s kw.1 kw.2) s
  ⟨(s.a + r.a) % wordSize, (s.b + r.b) % wordSize, (s.c + r.c) % wordSize,
    (s.d + r.d) % wordSize, (s.e + r.e) % wordSize, (s.f + r.f) % wordSize,
    (s.g + r.g) % wordSize, (s.h + r.h) % wordSize⟩

/-- The lowest `n` bytes of a number, most significant byte first. -/
def bigEndian : ℕ → ℕ → Bytes
  | 0, _ => []
  | n + 1, x => bigEndian n (x >>> 8) ++ [UInt8.ofNat x]

def padding (length : ℕ) : Bytes :=
  0x80 :: List.replicate ((119 - length % 64) % 64) 0 ++ bigEndian 8 (8 * length)

/-- Compress the first `n` blocks. -/
def digestBlocks : ℕ → HashState → Bytes → HashState
  | 0, s, _ => s
  | n + 1, s, data => digestBlocks n (compress s (data.take 64)) (data.drop 64)

def HashState.bytes (s : HashState) : Bytes :=
  [s.a, s.b, s.c, s.d, s.e, s.f, s.g, s.h].flatMap (bigEndian 4)

def sha256 (data : Bytes) : Bytes :=
  let padded := data ++ padding data.length
  (digestBlocks (padded.length / 64) initialState padded).bytes

def blockKey (key : Bytes) : Bytes :=
  let key := if 64 < key.length then sha256 key else key
  key ++ List.replicate (64 - key.length) 0

/-- `hmac.new(key, message, hashlib.sha256).digest()`. -/
def hmacSha256 (key message : Bytes) : Bytes :=
  let inner := sha256 ((blockKey key).map (· ^^^ 0x36) ++ message)
  sha256 ((blockKey key).map (· ^^^ 0x5c) ++ inner)

theorem bigEndian_length (n x : ℕ) : (bigEndian n x).length = n := by
  induction n generalizing x with
  | zero => rfl
  | succ n ih => simp [bigEndian, ih]

theorem HashState.bytes_length (s : HashState) : s.bytes.length = 32 := by
  simp [HashState.bytes, bigEndian_length]

theorem sha256_length (data : Bytes) : (sha256 data).length = 32 :=
  HashState.bytes_length _

theorem hmacSha256_length (key message : Bytes) : (hmacSha256 key message).length = 32 :=
  sha256_length _

end PamMvp.Sha256
