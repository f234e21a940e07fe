/-!
# Bytes as text

`encode` writes a text as UTF-8, and `decodeLossy` reads bytes as UTF-8. Where they are not, every longest beginning of
a character that goes no further, and every byte that begins none, becomes one replacement character.
-/

namespace CatalogFinder.Text

def encode (text : String) : List UInt8 := text.toList.flatMap String.utf8EncodeChar

/-- The ranges of the bytes that may follow a first byte, for a character of more than one. -/
def followers? (first : UInt8) : Option (List (Nat × Nat)) :=
  let n := first.toNat
  let any : Nat × Nat := (0x80, 0xBF)
  if 0xC2 ≤ n && n ≤ 0xDF then some [any]
  else if n = 0xE0 then some [(0xA0, 0xBF), any]
  else if n = 0xED then some [(0x80, 0x9F), any]
  else if 0xE1 ≤ n && n ≤ 0xEF then some [any, any]
  else if n = 0xF0 then some [(0x90, 0xBF), any, any]
  else if 0xF1 ≤ n && n ≤ 0xF3 then some [any, any, any]
  else if n = 0xF4 then some [(0x80, 0x8F), any, any]
  else none

/-- The bits that a first byte gives to its character. -/
def leadingBits (first : UInt8) : Nat :=
  let n := first.toNat
  if n < 0xE0 then n % 0x20 else if n < 0xF0 then n % 0x10 else n % 0x08

/-- Adds the bits of following bytes to a character, which is replaced if a byte is out of its range. -/
def follow (bits : Nat) : List (Nat × Nat) → List UInt8 → Char × List UInt8
  | [], rest => (Char.ofNat bits, rest)
  | range :: ranges, b :: rest =>
    if range.1 ≤ b.toNat && b.toNat ≤ range.2 then follow (bits * 0x40 + b.toNat % 0x40) ranges rest
    else ('\uFFFD', b :: rest)
  | _ :: _, [] => ('\uFFFD', [])

theorem length_follow_le (bits : Nat) (ranges : List (Nat × Nat)) (rest : List UInt8) :
    (follow bits ranges rest).2.length ≤ rest.length := by
  induction ranges generalizing bits rest with
  | nil => simp [follow]
  | cons range ranges ih =>
    cases rest with
    | nil => simp [follow]
    | cons b rest =>
      unfold follow
      split
      · exact Nat.le_succ_of_le (ih _ _)
      · simp

def decodeLossyChars : List UInt8 → List Char
  | [] => []
  | b :: rest =>
    if b.toNat < 0x80 then Char.ofNat b.toNat :: decodeLossyChars rest
    else match followers? b with
      | none => '\uFFFD' :: decodeLossyChars rest
      | some ranges =>
        let step := follow (leadingBits b) ranges rest
        step.1 :: decodeLossyChars step.2
termination_by bytes => bytes.length
decreasing_by
  · simp
  · simp
  · exact Nat.lt_succ_of_le (length_follow_le _ _ _)

def decodeLossy (bytes : List UInt8) : String := String.ofList (decodeLossyChars bytes)

end CatalogFinder.Text
