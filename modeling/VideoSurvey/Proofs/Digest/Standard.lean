import Mathlib.Data.Nat.Nth
import Mathlib.Data.Nat.Prime.Basic

/-!
# What SHA-256 is

The hash of a message, said place by place. The padded message has a byte for each index, the
schedule of a block is a sequence of words by a recurrence, the registers are told round by round,
and the constants are those that they stand for: the first bits behind the point of the square and
cube roots of the first primes. Nothing here is meant to be computed with; that
`Digest.sha256Hex` computes it is shown in `Proofs.Digest.Computed`.
-/

set_option autoImplicit false

namespace VideoSurvey.Digest.Standard

/-- A word has 32 bits. -/
abbrev Word := BitVec 32

/-! ## Constants -/

/-- The root of a number, rounded down. -/
def root (degree n : Nat) : Nat := Nat.findGreatest (fun r => r ^ degree ≤ n) n

/-- The first 32 bits behind the point of the root of a prime. -/
noncomputable def rootBits (degree index : Nat) : Word :=
  BitVec.ofNat 32 (root degree (Nat.nth Nat.Prime index * 2 ^ (32 * degree)))

/-! ## Functions of words -/

/-- Each bit of `x` chooses between those of `y` and `z`. -/
def choose (x y z : Word) : Word := (x &&& y) ^^^ (~~~x &&& z)

/-- Each bit is the one that two of three words have. -/
def majority (x y z : Word) : Word := (x &&& y) ^^^ (x &&& z) ^^^ (y &&& z)

/-- The sum, bit by bit, of three rotations to the right. -/
def rotations (i j k : Nat) (x : Word) : Word :=
  x.rotateRight i ^^^ x.rotateRight j ^^^ x.rotateRight k

/-- The sum, bit by bit, of two rotations and a shift to the right. -/
def rotationsShift (i j k : Nat) (x : Word) : Word :=
  x.rotateRight i ^^^ x.rotateRight j ^^^ (x >>> k)

/-! ## The padded message -/

/-- The number of blocks of 64 bytes that hold a message, one bit more and its length. -/
def blockCount (length : Nat) : Nat := (length + 8) / 64 + 1

/-- The byte at an index of the padded message: the message, a one bit, zeros, and the number of
bits in the last eight bytes. -/
def paddedByte (message : List UInt8) (i : Nat) : Nat :=
  if i < message.length then (message.getD i 0).toNat
  else if i = message.length then 128
  else if i < 64 * blockCount message.length - 8 then 0
  else 8 * message.length / 256 ^ (64 * blockCount message.length - 1 - i) % 256

/-- The word at an index of the padded message, its first byte the most significant one. -/
def messageWord (message : List UInt8) (i : Nat) : Word :=
  BitVec.ofNat 32 (paddedByte message (4 * i) * 2 ^ 24 + paddedByte message (4 * i + 1) * 2 ^ 16 +
    paddedByte message (4 * i + 2) * 2 ^ 8 + paddedByte message (4 * i + 3))

/-- The words that the rounds of a block take in. -/
def schedule (message : List UInt8) (block t : Nat) : Word :=
  if t < 16 then messageWord message (16 * block + t)
  else
    rotationsShift 17 19 10 (schedule message block (t - 2)) + schedule message block (t - 7) +
      rotationsShift 7 18 3 (schedule message block (t - 15)) + schedule message block (t - 16)
termination_by t

/-! ## The hash -/

/-- The eight words that a message is hashed in. -/
structure Registers where
  a : Word
  b : Word
  c : Word
  d : Word
  e : Word
  f : Word
  g : Word
  h : Word

namespace Registers

/-- The registers before the first block. -/
noncomputable def start : Registers :=
  ⟨rootBits 2 0, rootBits 2 1, rootBits 2 2, rootBits 2 3, rootBits 2 4, rootBits 2 5,
    rootBits 2 6, rootBits 2 7⟩

/-- The sum of two states of the registers. -/
def add (r s : Registers) : Registers :=
  ⟨r.a + s.a, r.b + s.b, r.c + s.c, r.d + s.d, r.e + s.e, r.f + s.f, r.g + s.g, r.h + s.h⟩

/-- One round with a constant and a word of the schedule. -/
def step (constant word : Word) (r : Registers) : Registers :=
  let first := r.h + rotations 6 11 25 r.e + choose r.e r.f r.g + constant + word
  let second := rotations 2 13 22 r.a + majority r.a r.b r.c
  ⟨first + second, r.a, r.b, r.c, r.d + first, r.e, r.f, r.g⟩

/-- The words in their order. -/
def words (r : Registers) : List Word := [r.a, r.b, r.c, r.d, r.e, r.f, r.g, r.h]

end Registers

/-- The registers after the first rounds with a schedule. -/
noncomputable def rounds (schedule : Nat → Word) (r : Registers) : Nat → Registers
  | 0 => r
  | t + 1 => (rounds schedule r t).step (rootBits 3 t) (schedule t)

/-- The registers after the first blocks of a message. -/
noncomputable def hashed (message : List UInt8) : Nat → Registers
  | 0 => .start
  | block + 1 =>
      (hashed message block).add (rounds (schedule message block) (hashed message block) 64)

/-- The eight hexadecimal digits of a word. -/
def hexDigits (w : Word) : List Char :=
  (List.range 8).map fun i => Nat.digitChar (w.toNat / 16 ^ (7 - i) % 16)

/-- The SHA-256 of a message in lower-case hexadecimal. -/
noncomputable def sha256Hex (message : List UInt8) : String :=
  String.ofList ((hashed message (blockCount message.length)).words.flatMap hexDigits)

/-! ## The first primes -/

section Primes

variable {p : Nat → Prop} [DecidablePred p]

end Primes

end VideoSurvey.Digest.Standard
