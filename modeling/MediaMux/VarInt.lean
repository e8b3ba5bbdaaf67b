import MediaMux.Bytes

/-!
# Variable-length integers

Numbers of at most 62 bits on one, two, four or eight bytes. The two high bits of the first byte are
the logarithm of the length, and the other bits are the number, most significant first. `encode`
always takes the shortest length, `decode?` reads any length, also one longer than needed, and takes
no byte if the announced length is not there.
-/

namespace MediaMux

/-- The number of bytes of an encoding whose length has the logarithm `k`. -/
def VarInt.width : Nat → Nat
  | 0 => 1
  | 1 => 2
  | 2 => 4
  | _ => 8

/-- How many numbers such an encoding has room for: two of its bits are taken. -/
def VarInt.room (k : Nat) : Nat := Bytes.capacity (VarInt.width k) / 4

/-- The largest number that 62 bits hold. -/
def VarInt.maxValue : Nat := VarInt.room 3 - 1

/-- A number of at most 62 bits. -/
structure VarInt where
  value : Nat
  value_le : value ≤ VarInt.maxValue
deriving DecidableEq

namespace VarInt

/-- The number as a variable-length integer, if 62 bits hold it. -/
def ofNat? (n : Nat) : Option VarInt :=
  if h : n ≤ maxValue then some ⟨n, h⟩ else none

instance : Inhabited VarInt := ⟨⟨0, Nat.zero_le _⟩⟩

/-- The logarithm of the shortest length that holds `n`. -/
def lengthClass (n : Nat) : Nat :=
  if n < room 0 then 0 else if n < room 1 then 1 else if n < room 2 then 2 else 3

def encodedLength (v : VarInt) : Nat := width (lengthClass v.value)

/-- The shortest encoding: the length's logarithm in the two high bits, then the number. -/
def encode (v : VarInt) : Bytes :=
  let k := lengthClass v.value
  Bytes.bigEndian (width k) (k * room k + v.value)

theorem room_le : ∀ k, room k ≤ room 3
  | 0 | 1 | 2 => by decide
  | _ + 3 => Nat.le_refl (room 3)

theorem room_pos : ∀ k, 0 < room k
  | 0 | 1 | 2 => by decide
  | _ + 3 => show 0 < room 3 by decide

theorem mod_room_le (k n : Nat) : n % room k ≤ maxValue := by
  have hlt := Nat.mod_lt n (room_pos k)
  have hle := room_le k
  unfold maxValue
  omega

theorem width_pos : ∀ k, 0 < width k
  | 0 | 1 | 2 => by decide
  | _ + 3 => show 0 < width 3 by decide

/-- The number in `bytes`, whose first byte announces a length of logarithm `k`. -/
def ofBytes (k : Nat) (bytes : Bytes) : VarInt := ⟨bytes.toNat % room k, mod_room_le k _⟩

/-- The number at the front of `b` and the bytes after it; none if `b` is empty or shorter than its
first byte announces. -/
def decode? : Bytes → Option (VarInt × Bytes)
  | [] => none
  | first :: rest =>
    let k := first.toNat / 64
    if (first :: rest).length < width k then none
    else some (ofBytes k ((first :: rest).take (width k)), (first :: rest).drop (width k))

theorem length_lt_of_decode? {b rest : Bytes} {v : VarInt} (h : decode? b = some (v, rest)) :
    rest.length < b.length := by
  cases b with
  | nil => simp [decode?] at h
  | cons first tail =>
    simp only [decode?] at h
    split at h
    · cases h
    · next hlen =>
      have hpos := width_pos (first.toNat / 64)
      simp only [Option.some.injEq, Prod.mk.injEq] at h
      rw [← h.2, List.length_drop]
      omega

/-- Every number at the front of `b`, each with the number of bytes left after it, and the bytes
that no number starts. -/
def decodeAll (b : Bytes) : List (VarInt × Nat) × Bytes :=
  match _h : decode? b with
  | none => ([], b)
  | some (v, rest) =>
    let (values, left) := decodeAll rest
    ((v, rest.length) :: values, left)
termination_by b.length
decreasing_by exact length_lt_of_decode? _h

def toText (v : VarInt) : String := toString v.value

def sort (vs : List VarInt) : List VarInt := vs.mergeSort fun a b => a.value ≤ b.value

end VarInt

end MediaMux
