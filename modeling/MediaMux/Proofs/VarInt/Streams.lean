import Mathlib.Order.Bounds.Defs
import Mathlib.Order.Monotone.Basic
import Mathlib.Data.List.Induction
import MediaMux.Proofs.VarInt.RoundTrip

/-!
# Streams of numbers

The encoding of a number is the shortest of those that reading takes for it
(`Spells.length_encode_le`), and none is the start of another (`encode_prefix`). So numbers that
are written one behind the other are read back one by one, up to bytes that no number starts
(`streams_read_back`).
-/

namespace MediaMux

theorem Bytes.bigEndian_toNat (b : Bytes) : bigEndian b.length (toNat b) = b := by
  induction b using List.reverseRecOn with
  | nil => rfl
  | append_singleton b byte ih =>
    have hlt := byte.toNat_lt
    have hfront : (256 * toNat b + byte.toNat) / 256 = toNat b := by omega
    have hlast : UInt8.ofNat (256 * toNat b + byte.toNat) = byte := by
      apply UInt8.toNat_inj.mp
      rw [UInt8.toNat_ofNat']
      omega
    rw [List.length_append, List.length_singleton, bigEndian, toNat_concat, hfront, hlast, ih]

namespace VarInt

/-! ### The shortest length -/

theorem width_mono : Monotone width :=
  monotone_nat_of_le_succ fun
    | 0 | 1 | 2 => by decide
    | _ + 3 => Nat.le_refl 8

theorem width_inj : ∀ j < 4, ∀ k < 4, width j = width k → j = k := by decide

theorem lengthClass_le : ∀ {k n : Nat}, n < room k → lengthClass n ≤ k
  | 0, n, h => by simp [lengthClass, h]
  | 1, n, h => by
    simp only [lengthClass, h, if_true]
    split <;> omega
  | 2, n, h => by
    simp only [lengthClass, h, if_true]
    split
    · omega
    · split <;> omega
  | k + 3, n, _ => by
    have := lengthClass_lt n
    omega

namespace Spells

variable {v : VarInt} {k : Nat} {bytes : Bytes}

/-- No encoding is shorter than the one that is written. -/
theorem length_encode_le (h : v.Spells k bytes) : v.encode.length ≤ bytes.length := by
  rw [length_encode, h.length]
  exact width_mono (lengthClass_le h.value_lt)

/-- An encoding is the one that is written unless it is longer. -/
theorem encode_eq_iff (h : v.Spells k bytes) :
    v.encode = bytes ↔ v.encode.length = bytes.length := by
  refine ⟨congrArg List.length, ?_⟩
  intro hlength
  have hwidth : width (lengthClass v.value) = width k := by
    rw [← h.length, ← hlength, length_encode, encodedLength]
  have hclass : lengthClass v.value = k :=
    width_inj _ (lengthClass_lt v.value) _ h.class_lt hwidth
  calc v.encode
      = Bytes.bigEndian (width k) (k * room k + v.value) := by rw [encode, hclass]
    _ = Bytes.bigEndian bytes.length (Bytes.toNat bytes) := by rw [h.length, h.toNat]
    _ = bytes := Bytes.bigEndian_toNat bytes

end Spells

theorem decode?_encode (v : VarInt) : decode? v.encode = some (v, []) := by
  simpa using v.decode?_encode_append []

theorem isLeast_encodedLength (v : VarInt) :
    IsLeast {n | ∃ b : Bytes, decode? b = some (v, []) ∧ b.length = n} v.encodedLength := by
  refine ⟨⟨v.encode, v.decode?_encode, v.length_encode⟩, ?_⟩
  rintro n ⟨b, hb, rfl⟩
  obtain ⟨k, consumed, hspells, rfl⟩ := decode?_eq_some.mp hb
  rw [List.append_nil, ← v.length_encode]
  exact hspells.length_encode_le

/-- An encoding that another one starts with is the same one. -/
theorem encode_prefix {v w : VarInt} (h : v.encode <+: w.encode) : v = w := by
  obtain ⟨rest, hrest⟩ := h
  have hread := v.decode?_encode_append rest
  rw [hrest, w.decode?_encode] at hread
  cases hread
  rfl

/-! ### Reading all numbers -/

theorem decodeAll_of_none {b : Bytes} (h : decode? b = none) : decodeAll b = ([], b) := by
  unfold decodeAll
  split
  · rfl
  · next hsome => rw [h] at hsome; cases hsome

theorem decodeAll_of_some {b rest : Bytes} {v : VarInt} (h : decode? b = some (v, rest)) :
    decodeAll b = ((v, rest.length) :: (decodeAll rest).1, (decodeAll rest).2) := by
  rw [decodeAll]
  split
  · next hnone => rw [h] at hnone; cases hnone
  · next hsome =>
    rw [h] at hsome
    cases hsome
    rfl

theorem decodeAll_encode_append (vs : List VarInt) {rest : Bytes} (hrest : decode? rest = none) :
    (decodeAll (vs.flatMap encode ++ rest)).1.map Prod.fst = vs ∧
      (decodeAll (vs.flatMap encode ++ rest)).2 = rest := by
  induction vs with
  | nil =>
    rw [List.flatMap_nil, List.nil_append, decodeAll_of_none hrest]
    exact ⟨rfl, rfl⟩
  | cons v vs ih =>
    obtain ⟨hvalues, hleft⟩ := ih
    rw [List.flatMap_cons, List.append_assoc, decodeAll_of_some (v.decode?_encode_append _)]
    exact ⟨by rw [List.map_cons, hvalues], hleft⟩

theorem exists_ofNat? (n : Nat) : (∃ v, ofNat? n = some v ∧ v.value = n) ↔ n ≤ maxValue := by
  constructor
  · rintro ⟨v, -, rfl⟩
    exact v.value_le
  · intro hle
    exact ⟨⟨n, hle⟩, dif_pos hle, rfl⟩

/-- The numbers below 2 to the 62 can be written. Written one behind the other they are read back
in their order, and what comes behind them is left, as long as no number can be read from it. The
encoding of a number has the least length of all byte strings that read as the number, and none is
the start of the encoding of another number. -/
theorem streams_read_back :
    (∀ n, (∃ v, ofNat? n = some v ∧ v.value = n) ↔ n ≤ 4611686018427387903) ∧
    (∀ (vs : List VarInt) (rest : Bytes), decode? rest = none →
      (decodeAll (vs.flatMap encode ++ rest)).1.map Prod.fst = vs ∧
        (decodeAll (vs.flatMap encode ++ rest)).2 = rest) ∧
    (∀ v : VarInt, v.encode.length = v.encodedLength ∧
      IsLeast {n | ∃ b : Bytes, decode? b = some (v, []) ∧ b.length = n} v.encodedLength) ∧
    ∀ v w : VarInt, v.encode <+: w.encode → v = w :=
  ⟨exists_ofNat?, fun vs _ hrest => decodeAll_encode_append vs hrest,
    fun v => ⟨v.length_encode, v.isLeast_encodedLength⟩, fun _ _ => encode_prefix⟩

/-- The greatest numbers on one, two, four and eight bytes. -/
def lengthBounds : List VarInt :=
  [⟨63, by decide⟩, ⟨16383, by decide⟩, ⟨1073741823, by decide⟩, ⟨4611686018427387903, by decide⟩]

/-- They are read back from in front of the first two of four bytes. -/
theorem bounds_read_back :
    decode? [0x80, 0x00] = none ∧
      (decodeAll (lengthBounds.flatMap encode ++ [0x80, 0x00])).1.map Prod.fst = lengthBounds ∧
      (decodeAll (lengthBounds.flatMap encode ++ [0x80, 0x00])).2 = [0x80, 0x00] :=
  ⟨rfl, streams_read_back.2.1 lengthBounds [0x80, 0x00] rfl⟩

end VarInt

end MediaMux
