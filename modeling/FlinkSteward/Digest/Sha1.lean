import FlinkSteward.Text.Digit

/-!
# SHA-1

The SHA-1 digest of a text in UTF-8, as hexadecimal digits. Generated files are named for the first
digits of it, so that equal contents share a file.

- `Sha1.hexDigest`: the forty digits
-/

namespace FlinkSteward.Sha1

open FlinkSteward.Text

/-- The five words that a digest is made of. -/
structure State where
  /-- The first word. -/
  a : UInt32
  /-- The second word. -/
  b : UInt32
  /-- The third word. -/
  c : UInt32
  /-- The fourth word. -/
  d : UInt32
  /-- The fifth word. -/
  e : UInt32
deriving DecidableEq, Inhabited

/-- The words before the first block. -/
def State.start : State :=
  ⟨0x67452301, 0xefcdab89, 0x98badcfe, 0x10325476, 0xc3d2e1f0⟩

/-- A word turned left by `n` bits. -/
def rotateLeft (x : UInt32) (n : UInt32) : UInt32 :=
  (x <<< n) ||| (x >>> (32 - n))

/-- The bytes of a length in bits, in eight bytes. -/
def lengthBytes (bits : Nat) : List UInt8 :=
  (List.range 8).map fun i => UInt8.ofNat (bits / Nat.pow 256 (7 - i) % 256)

/-- Bytes filled up to whole blocks of 64: a one bit, zeros, and the length. -/
def pad (bytes : List UInt8) : List UInt8 :=
  let zeros := (119 - bytes.length % 64) % 64
  bytes ++ 0x80 :: List.replicate zeros 0 ++ lengthBytes (8 * bytes.length)

/-- Bytes as words of four. -/
def wordsOf : List UInt8 → List UInt32
  | w :: x :: y :: z :: rest =>
    (w.toUInt32 <<< 24 ||| x.toUInt32 <<< 16 ||| y.toUInt32 <<< 8 ||| z.toUInt32) :: wordsOf rest
  | _ => []

/-- The schedule of a block, last word first, with `n` more words. -/
def extend : Nat → List UInt32 → List UInt32
  | 0, ws => ws
  | n + 1, ws =>
    let at' (i : Nat) := ws[i]?.getD 0
    extend n (rotateLeft (at' 2 ^^^ at' 7 ^^^ at' 13 ^^^ at' 15) 1 :: ws)

/-- The function and the constant of a round. -/
def roundOf (i : Nat) (b c d : UInt32) : UInt32 × UInt32 :=
  if i < 20 then ((b &&& c) ||| (~~~b &&& d), 0x5a827999)
  else if i < 40 then (b ^^^ c ^^^ d, 0x6ed9eba1)
  else if i < 60 then ((b &&& c) ||| (b &&& d) ||| (c &&& d), 0x8f1bbcdc)
  else (b ^^^ c ^^^ d, 0xca62c1d6)

/-- The words after the round `i` with the scheduled word `w`. -/
def step (s : State) (i : Nat) (w : UInt32) : State :=
  let (f, k) := roundOf i s.b s.c s.d
  ⟨rotateLeft s.a 5 + f + s.e + k + w, s.a, rotateLeft s.b 30, s.c, s.d⟩

/-- The words after the rounds from `i` on. -/
def rounds (s : State) (i : Nat) : List UInt32 → State
  | [] => s
  | w :: rest => rounds (step s i w) (i + 1) rest

/-- The words after a block of sixteen words. -/
def block (s : State) (words : List UInt32) : State :=
  let t := rounds s 0 (extend 64 words.reverse).reverse
  ⟨s.a + t.a, s.b + t.b, s.c + t.c, s.d + t.d, s.e + t.e⟩

/-- The words after `n` blocks. -/
def blocks : Nat → State → List UInt32 → State
  | 0, s, _ => s
  | n + 1, s, words => blocks n (block s (words.take 16)) (words.drop 16)

/-- The words of the digest of some bytes. -/
def digest (bytes : List UInt8) : State :=
  let words := wordsOf (pad bytes)
  blocks (words.length / 16) .start words

/-- The digest of a text in UTF-8, in hexadecimal digits. -/
def hexDigest (text : String) : String :=
  let s := digest text.toUTF8.toList
  String.ofList ([s.a, s.b, s.c, s.d, s.e].flatMap fun w => padded 16 8 w.toNat)

example : hexDigest "abc" = "a9993e364706816aba3e25717850c26c9cd0d89d" := by decide +kernel

end FlinkSteward.Sha1
