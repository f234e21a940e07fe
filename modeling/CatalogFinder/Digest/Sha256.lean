import CatalogFinder.Text.Digits
import CatalogFinder.Text.Utf8

/-!
# SHA-256

`Sha256.hex` is the digest of a text's UTF-8 bytes in lower-case hexadecimal: always 64 digits (`Sha256.length_hex`,
`Sha256.mem_hex`). The message is padded to whole blocks, each block of sixteen words is stretched to a schedule of
sixty-four, and every scheduled word turns the state once.
-/

namespace CatalogFinder.Sha256

/-- The eight words that a message turns into. -/
structure State where
  a : UInt32
  b : UInt32
  c : UInt32
  d : UInt32
  e : UInt32
  f : UInt32
  g : UInt32
  h : UInt32

namespace State

/-- The fractional parts of the square roots of the first eight primes. -/
def start : State :=
  ⟨0x6a09e667, 0xbb67ae85, 0x3c6ef372, 0xa54ff53a, 0x510e527f, 0x9b05688c, 0x1f83d9ab, 0x5be0cd19⟩

def words (s : State) : List UInt32 := [s.a, s.b, s.c, s.d, s.e, s.f, s.g, s.h]

/-- Sum of two states, word by word. -/
def add (s t : State) : State :=
  ⟨s.a + t.a, s.b + t.b, s.c + t.c, s.d + t.d, s.e + t.e, s.f + t.f, s.g + t.g, s.h + t.h⟩

end State

/-- The fractional parts of the cube roots of the first sixty-four primes. -/
def roundConstants : List UInt32 := [
  0x428a2f98, 0x71374491, 0xb5c0fbcf, 0xe9b5dba5, 0x3956c25b, 0x59f111f1, 0x923f82a4, 0xab1c5ed5,
  0xd807aa98, 0x12835b01, 0x243185be, 0x550c7dc3, 0x72be5d74, 0x80deb1fe, 0x9bdc06a7, 0xc19bf174,
  0xe49b69c1, 0xefbe4786, 0x0fc19dc6, 0x240ca1cc, 0x2de92c6f, 0x4a7484aa, 0x5cb0a9dc, 0x76f988da,
  0x983e5152, 0xa831c66d, 0xb00327c8, 0xbf597fc7, 0xc6e00bf3, 0xd5a79147, 0x06ca6351, 0x14292967,
  0x27b70a85, 0x2e1b2138, 0x4d2c6dfc, 0x53380d13, 0x650a7354, 0x766a0abb, 0x81c2c92e, 0x92722c85,
  0xa2bfe8a1, 0xa81a664b, 0xc24b8b70, 0xc76c51a3, 0xd192e819, 0xd6990624, 0xf40e3585, 0x106aa070,
  0x19a4c116, 0x1e376c08, 0x2748774c, 0x34b0bcb5, 0x391c0cb3, 0x4ed8aa4a, 0x5b9cca4f, 0x682e6ff3,
  0x748f82ee, 0x78a5636f, 0x84c87814, 0x8cc70208, 0x90befffa, 0xa4506ceb, 0xbef9a3f7, 0xc67178f2]

def rotr (w n : UInt32) : UInt32 := (w >>> n) ||| (w <<< (32 - n))

/-! ## Blocks -/

/-- What follows a message of that many bytes: a one bit, zeros up to eight bytes before a block's end, and the
length in bits. -/
def padding (length : Nat) : List UInt8 :=
  ((0x80 : UInt8) :: List.replicate ((119 - length % 64) % 64) 0) ++
    [56, 48, 40, 32, 24, 16, 8, 0].map fun shift => UInt8.ofNat ((8 * length) >>> shift)

/-- The big-endian words of a byte sequence. -/
def wordsOfBytes : List UInt8 → List UInt32
  | x :: y :: z :: w :: rest =>
    ((x.toUInt32 <<< 24) ||| (y.toUInt32 <<< 16) ||| (z.toUInt32 <<< 8) ||| w.toUInt32) :: wordsOfBytes rest
  | _ => []

/-- Adds that many words to a schedule, which is held latest word first. -/
def extend : Nat → List UInt32 → List UInt32
  | 0, ws => ws
  | n + 1, ws =>
    let w2 := ws.getD 1 0
    let w15 := ws.getD 14 0
    let s0 := rotr w15 7 ^^^ rotr w15 18 ^^^ (w15 >>> 3)
    let s1 := rotr w2 17 ^^^ rotr w2 19 ^^^ (w2 >>> 10)
    extend n ((s1 + ws.getD 6 0 + s0 + ws.getD 15 0) :: ws)

/-- The sixty-four words of a block. -/
def schedule (block : List UInt32) : List UInt32 := (extend 48 block.reverse).reverse

/-- One turn of the state, by a round constant and a scheduled word. -/
def turn (s : State) (step : UInt32 × UInt32) : State :=
  let s1 := rotr s.e 6 ^^^ rotr s.e 11 ^^^ rotr s.e 25
  let choice := (s.e &&& s.f) ^^^ (~~~s.e &&& s.g)
  let t1 := s.h + s1 + choice + step.1 + step.2
  let s0 := rotr s.a 2 ^^^ rotr s.a 13 ^^^ rotr s.a 22
  let majority := (s.a &&& s.b) ^^^ (s.a &&& s.c) ^^^ (s.b &&& s.c)
  ⟨t1 + (s0 + majority), s.a, s.b, s.c, s.d + t1, s.e, s.f, s.g⟩

/-- The state after one block. -/
def compress (s : State) (block : List UInt32) : State :=
  s.add ((roundConstants.zip (schedule block)).foldl turn s)

/-- The state after all blocks of the words. -/
def absorb (s : State) (words : List UInt32) : State :=
  match words with
  | [] => s
  | w :: rest => absorb (compress s (w :: rest.take 15)) (rest.drop 15)
termination_by words.length
decreasing_by exact Nat.lt_succ_of_le (List.drop_sublist 15 rest).length_le

/-! ## Text -/

/-- The eight digits of a word. -/
def hexWord (w : UInt32) : List Char :=
  [28, 24, 20, 16, 12, 8, 4, 0].map fun shift => Text.hexDigit ((w.toNat >>> shift) % 16)

def digest (bytes : List UInt8) : State :=
  absorb .start (wordsOfBytes (bytes ++ padding bytes.length))

/-- The digest of a text in hexadecimal. -/
def hex (text : String) : String :=
  String.ofList ((digest (Text.encode text)).words.flatMap hexWord)

@[simp] theorem length_hexWord (w : UInt32) : (hexWord w).length = 8 := rfl

/-- A digest has 64 digits. -/
theorem length_hex (text : String) : (hex text).length = 64 := by
  simp [hex, State.words]

/-- A digest is written in lower-case hexadecimal digits. -/
theorem mem_hex {text : String} {c : Char} (h : c ∈ (hex text).toList) : c ∈ Text.hexDigits := by
  simp only [hex, String.toList_ofList, List.mem_flatMap, hexWord, List.mem_map] at h
  obtain ⟨_, _, _, _, rfl⟩ := h
  exact Text.hexDigit_mem _

end CatalogFinder.Sha256
