import MediaMux.VarInt

/-!
# Reading what was written

The two high bits of an encoding are those of its first byte (`Spells.exists_cons`), so that reading
finds the length that was chosen, the shortest or another (`decode?_eq_some`), and gives back what
was written, whatever comes behind (`decode?_encode_append`).
-/

namespace MediaMux

/-- The first byte of a number on `width + 1` bytes. -/
theorem Bytes.toNat_head {first : UInt8} {rest : Bytes} {width : Nat}
    (hlength : rest.length = width) :
    toNat (first :: rest) / capacity width = first.toNat := by
  have hsplit := toNat_append [first] rest
  have hfirst : toNat [first] = first.toNat := by simp [toNat]
  have hrest := toNat_lt rest
  rw [hfirst, hlength] at hsplit
  rw [hlength] at hrest
  rw [← List.singleton_append, hsplit, Nat.mul_add_div (capacity_pos width),
    Nat.div_eq_of_lt hrest, Nat.add_zero]

namespace VarInt

theorem eq_of_value_eq {v w : VarInt} (h : v.value = w.value) : v = w := by
  cases v
  cases w
  cases h
  rfl

theorem room_eq : ∀ k, room k = 64 * Bytes.capacity (width k - 1)
  | 0 | 1 | 2 => by decide
  | _ + 3 => show room 3 = 64 * Bytes.capacity (width 3 - 1) by decide

theorem capacity_width (k : Nat) : Bytes.capacity (width k) = 4 * room k := by
  obtain ⟨w, hw⟩ := Nat.exists_eq_add_of_lt (width_pos k)
  have hroom := room_eq k
  rw [hw] at hroom ⊢
  rw [hroom, Nat.zero_add, Nat.add_sub_cancel, Bytes.capacity]
  omega

theorem lengthClass_lt (n : Nat) : lengthClass n < 4 := by
  unfold lengthClass
  split
  · omega
  · split
    · omega
    · split <;> omega

/-- The shortest length holds the number. -/
theorem value_lt_room (v : VarInt) : v.value < room (lengthClass v.value) := by
  have hmax : v.value < room 3 := by
    have hle := v.value_le
    have hpos := room_pos 3
    unfold maxValue at hle
    omega
  unfold lengthClass
  split
  · assumption
  · split
    · assumption
    · split <;> assumption

theorem length_encode (v : VarInt) : v.encode.length = v.encodedLength :=
  Bytes.length_bigEndian _ _

/-! ### Encodings of any length -/

/-- The bytes are an encoding of `v`, not always the shortest: `k` is the logarithm of their length,
which their two high bits announce. -/
structure Spells (v : VarInt) (k : Nat) (bytes : Bytes) : Prop where
  class_lt : k < 4
  length : bytes.length = width k
  value_lt : v.value < room k
  toNat : Bytes.toNat bytes = k * room k + v.value

theorem spells_encode (v : VarInt) : v.Spells (lengthClass v.value) v.encode where
  class_lt := lengthClass_lt v.value
  length := v.length_encode
  value_lt := v.value_lt_room
  toNat := by
    have hclass := lengthClass_lt v.value
    have hvalue := v.value_lt_room
    have hle : lengthClass v.value * room (lengthClass v.value) ≤
        3 * room (lengthClass v.value) := Nat.mul_le_mul_right _ (by omega)
    refine Bytes.toNat_bigEndian_of_lt ?_
    rw [capacity_width]
    omega

/-- The number in the bytes divided by the room for a value is what the first byte announces. -/
theorem toNat_div_room {first : UInt8} {rest : Bytes} {k : Nat}
    (hlength : (first :: rest).length = width k) :
    Bytes.toNat (first :: rest) / room k = first.toNat / 64 := by
  have hrest : rest.length = width k - 1 := by
    rw [List.length_cons] at hlength
    omega
  rw [← Bytes.toNat_head hrest, Nat.div_div_eq_div_mul, Nat.mul_comm _ 64, ← room_eq]

theorem spells_ofBytes {first : UInt8} {rest : Bytes}
    (hlength : (first :: rest).length = width (first.toNat / 64)) :
    (ofBytes (first.toNat / 64) (first :: rest)).Spells (first.toNat / 64) (first :: rest) where
  class_lt := by
    have := first.toNat_lt
    omega
  length := hlength
  value_lt := Nat.mod_lt _ (room_pos _)
  toNat := by
    have hsplit := Nat.div_add_mod (Bytes.toNat (first :: rest)) (room (first.toNat / 64))
    rw [toNat_div_room hlength, Nat.mul_comm] at hsplit
    exact hsplit.symm

namespace Spells

variable {v : VarInt} {k : Nat} {bytes : Bytes}

theorem ofBytes_eq (h : v.Spells k bytes) : ofBytes k bytes = v := by
  apply eq_of_value_eq
  show Bytes.toNat bytes % room k = v.value
  rw [h.toNat, Nat.mul_comm, Nat.mul_add_mod, Nat.mod_eq_of_lt h.value_lt]

/-- The first byte announces the length. -/
theorem exists_cons (h : v.Spells k bytes) :
    ∃ first rest, bytes = first :: rest ∧ first.toNat / 64 = k := by
  have hlength := h.length
  have htoNat := h.toNat
  cases bytes with
  | nil =>
    have hpos := width_pos k
    rw [List.length_nil] at hlength
    omega
  | cons first rest =>
    refine ⟨first, rest, rfl, ?_⟩
    rw [← toNat_div_room hlength, htoNat, Nat.mul_comm, Nat.mul_add_div (room_pos k),
      Nat.div_eq_of_lt h.value_lt, Nat.add_zero]

end Spells

/-- Reading takes an encoding off the front, of whatever length, and leaves what comes after it. -/
theorem decode?_eq_some {b rest : Bytes} {v : VarInt} :
    decode? b = some (v, rest) ↔ ∃ k consumed, v.Spells k consumed ∧ b = consumed ++ rest := by
  constructor
  · intro h
    cases b with
    | nil => simp [decode?] at h
    | cons first tail =>
      simp only [decode?] at h
      split at h
      · cases h
      · next hlong =>
        cases h
        have hlength : ((first :: tail).take (width (first.toNat / 64))).length =
            width (first.toNat / 64) := List.length_take_of_le (Nat.le_of_not_lt hlong)
        have hfirst : (first :: tail).take (width (first.toNat / 64)) =
            first :: tail.take (width (first.toNat / 64) - 1) := List.take_cons (width_pos _)
        have hsplit := List.take_append_drop (width (first.toNat / 64)) (first :: tail)
        rw [hfirst] at hlength hsplit ⊢
        exact ⟨_, _, spells_ofBytes hlength, hsplit.symm⟩
  · rintro ⟨k, consumed, hspells, rfl⟩
    obtain ⟨first, tail, rfl, hclass⟩ := hspells.exists_cons
    have hlong : ¬ (first :: (tail ++ rest)).length < width k := by
      rw [← hspells.length, List.length_cons, List.length_cons, List.length_append]
      omega
    rw [List.cons_append, decode?]
    simp only [hclass]
    rw [if_neg hlong, ← hspells.length, ← List.cons_append, List.take_left, List.drop_left,
      hspells.ofBytes_eq]

/-- Reading gives back the number that was written and leaves what comes after it. -/
theorem decode?_encode_append (v : VarInt) (rest : Bytes) :
    decode? (v.encode ++ rest) = some (v, rest) :=
  decode?_eq_some.mpr ⟨_, _, v.spells_encode, rfl⟩

/-- Reading fails only where bytes are missing. -/
theorem decode?_eq_none {b : Bytes} :
    decode? b = none ↔ ∀ first ∈ b.head?, b.length < width (first.toNat / 64) := by
  cases b with
  | nil => simp [decode?]
  | cons first rest =>
    simp only [decode?, List.head?_cons, Option.mem_some_iff, forall_eq']
    split
    · next hshort => exact iff_of_true rfl hshort
    · next hlong => exact iff_of_false (Option.some_ne_none _) hlong

end VarInt

end MediaMux
