/-!
# Byte strings: numbers of a fixed width

`bigEndian w n` writes `n` on `w` bytes, most significant first, and `toNat` reads such bytes back.
Reading undoes writing as long as the number fits (`toNat_bigEndian_of_lt`), and a concatenation
reads as its first part shifted past its second (`toNat_append`).
-/

namespace MediaMux

abbrev Bytes := List UInt8

namespace Bytes

/-- The number that `b` spells, most significant byte first. -/
def toNat (b : Bytes) : Nat := b.foldl (fun n byte => 256 * n + byte.toNat) 0

/-- `n` on `width` bytes, most significant first; what does not fit is dropped. -/
def bigEndian : Nat → Nat → Bytes
  | 0, _ => []
  | width + 1, n => bigEndian width (n / 256) ++ [UInt8.ofNat n]

/-- How many numbers fit on `width` bytes. -/
def capacity : Nat → Nat
  | 0 => 1
  | width + 1 => 256 * capacity width

@[simp] theorem toNat_nil : toNat [] = 0 := rfl

@[simp] theorem toNat_concat (b : Bytes) (byte : UInt8) :
    toNat (b ++ [byte]) = 256 * toNat b + byte.toNat := by
  simp [toNat]

@[simp] theorem length_bigEndian (width n : Nat) : (bigEndian width n).length = width := by
  induction width generalizing n with
  | zero => rfl
  | succ width ih => simp [bigEndian, ih]

theorem capacity_pos (width : Nat) : 0 < capacity width := by
  induction width with
  | zero => decide
  | succ width ih =>
    rw [capacity]
    omega

theorem toNat_bigEndian (width n : Nat) : toNat (bigEndian width n) = n % capacity width := by
  induction width generalizing n with
  | zero => simp [bigEndian, capacity, Nat.mod_one]
  | succ width ih =>
    have h : (UInt8.ofNat n).toNat = n % 256 := by simp
    rw [bigEndian, toNat_concat, ih, h, capacity, Nat.mod_mul]
    omega

theorem toNat_bigEndian_of_lt {width n : Nat} (h : n < capacity width) :
    toNat (bigEndian width n) = n := by
  rw [toNat_bigEndian, Nat.mod_eq_of_lt h]

theorem toNat_append (a b : Bytes) : toNat (a ++ b) = capacity b.length * toNat a + toNat b := by
  have key : ∀ (b : Bytes) (n : Nat),
      b.foldl (fun n byte => 256 * n + byte.toNat) n = capacity b.length * n + toNat b := by
    intro b
    induction b with
    | nil => simp [capacity]
    | cons byte b ih =>
      intro n
      rw [toNat, List.foldl_cons, List.foldl_cons, ih, ih (256 * 0 + byte.toNat)]
      rw [List.length_cons, capacity, Nat.mul_add, Nat.mul_zero, Nat.zero_add,
        Nat.mul_comm 256 (capacity b.length), Nat.mul_assoc, Nat.add_assoc]
  rw [toNat, List.foldl_append, key]
  rfl

theorem toNat_lt (b : Bytes) : toNat b < capacity b.length := by
  induction b with
  | nil => simp [capacity]
  | cons byte b ih =>
    have hb : byte.toNat < 256 := byte.toNat_lt
    have hc : toNat (byte :: b) = capacity b.length * byte.toNat + toNat b := by
      simpa [toNat] using toNat_append [byte] b
    rw [hc, List.length_cons, capacity, Nat.mul_comm 256 (capacity b.length)]
    calc capacity b.length * byte.toNat + toNat b
        < capacity b.length * byte.toNat + capacity b.length := by omega
      _ = capacity b.length * (byte.toNat + 1) := by rw [Nat.mul_add, Nat.mul_one]
      _ ≤ capacity b.length * 256 := Nat.mul_le_mul_left _ hb

end Bytes

end MediaMux
