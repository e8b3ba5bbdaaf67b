import Mathlib.Algebra.Order.Ring.Nat
import MediaMux.Demuxer
import MediaMux.Total
import MediaMux.Proofs.VarInt.Streams

/-!
# Reading from pieces

A buffer may hold its bytes in pieces. Looking at the next byte, counting and taking bytes out go
across them as if they were one byte string (`Pieces.next?_eq`, `Pieces.remaining_eq`,
`Pieces.takeOut_eq`). A number is read from such a buffer as from one string, and the buffer stays
as it is if bytes are missing, since nothing is taken before all are counted
(`reads_announced_bytes`).
-/

namespace MediaMux

/-- Bytes that wait to be read, in the pieces that they came in. -/
abbrev Pieces := List Bytes

namespace Pieces

def next? : Pieces → Option UInt8
  | [] => none
  | [] :: rest => next? rest
  | (byte :: _) :: _ => some byte

def remaining (pieces : Pieces) : Nat := total List.length pieces

/-- The next `n` bytes, fewer if there are fewer, and what is left. -/
def takeOut (n : Nat) : Pieces → Bytes × Pieces
  | [] => ([], [])
  | piece :: rest =>
    if n ≤ piece.length then (piece.take n, piece.drop n :: rest)
    else
      let (bytes, left) := takeOut (n - piece.length) rest
      (piece ++ bytes, left)

theorem next?_eq (pieces : Pieces) : pieces.next? = pieces.flatten.head? := by
  induction pieces with
  | nil => rfl
  | cons piece rest ih =>
    cases piece with
    | nil => exact ih
    | cons byte piece => rfl

theorem remaining_eq (pieces : Pieces) : pieces.remaining = pieces.flatten.length := by
  induction pieces with
  | nil => rfl
  | cons piece rest ih =>
    rw [List.flatten_cons, List.length_append, ← ih]
    rfl

theorem takeOut_eq (n : Nat) (pieces : Pieces) :
    (pieces.takeOut n).1 = pieces.flatten.take n ∧
      (pieces.takeOut n).2.flatten = pieces.flatten.drop n := by
  induction pieces generalizing n with
  | nil => simp [takeOut]
  | cons piece rest ih =>
    rw [List.flatten_cons]
    unfold takeOut
    split
    · next hle =>
      rw [List.take_append_of_le_length hle, List.drop_append_of_le_length hle]
      exact ⟨rfl, rfl⟩
    · next hlt =>
      have hle : piece.length ≤ n := Nat.le_of_not_le hlt
      obtain ⟨hbytes, hleft⟩ := ih (n - piece.length)
      rw [List.take_append, List.drop_append, List.take_of_length_le hle,
        List.drop_eq_nil_of_le hle, List.nil_append]
      exact ⟨congrArg (piece ++ ·) hbytes, hleft⟩

end Pieces

namespace VarInt

/-- Reads a number from a buffer: the number, if all its bytes are there, and what is left. -/
def read (pieces : Pieces) : Option VarInt × Pieces :=
  match pieces.next? with
  | none => (none, pieces)
  | some first =>
    let k := first.toNat / 64
    if pieces.remaining < width k then (none, pieces)
    else
      let (bytes, left) := pieces.takeOut (width k)
      (some (ofBytes k bytes), left)

/-- There is no first byte, or there are fewer bytes than it announces. -/
def Incomplete (b : Bytes) : Prop :=
  b = [] ∨ ∃ first ∈ b.head?, b.length < 2 ^ (first >>> 6).toNat

/-- The bytes `consumed` are what their first byte announces, and are read as `v`. -/
structure ReadAs (consumed : Bytes) (v : VarInt) : Prop where
  length : ∃ first ∈ consumed.head?, consumed.length = 2 ^ (first >>> 6).toNat
  /-- Most significant byte first, without the two high bits. -/
  value : v.value = Bytes.toNat consumed % 2 ^ (8 * consumed.length - 2)
  value_le : v.value ≤ 4611686018427387903
  rewritten_le : v.encode.length ≤ consumed.length
  rewritten_eq_iff : v.encode = consumed ↔ v.encode.length = consumed.length

/-! ### The announced length -/

theorem width_eq : ∀ k < 4, width k = 2 ^ k := by decide

theorem room_eq_pow : ∀ k < 4, room k = 2 ^ (8 * width k - 2) := by decide

theorem width_announced (first : UInt8) :
    width (first.toNat / 64) = 2 ^ (first >>> 6).toNat := by
  have hlt := first.toNat_lt
  have hshift : (first >>> 6).toNat = first.toNat / 64 := Nat.shiftRight_eq_div_pow first.toNat 6
  rw [hshift, width_eq _ (by omega)]

theorem decode?_eq_none_iff {b : Bytes} : decode? b = none ↔ Incomplete b := by
  rw [decode?_eq_none, Incomplete]
  cases b with
  | nil => simp
  | cons first rest => simp [width_announced]

theorem Spells.readAs {v : VarInt} {k : Nat} {consumed : Bytes} (h : v.Spells k consumed) :
    ReadAs consumed v where
  length := by
    obtain ⟨first, rest, rfl, hclass⟩ := h.exists_cons
    exact ⟨first, rfl, by rw [h.length, ← hclass, width_announced]⟩
  value := by
    rw [h.toNat, h.length, ← room_eq_pow k h.class_lt, Nat.mul_comm, Nat.mul_add_mod,
      Nat.mod_eq_of_lt h.value_lt]
  value_le := v.value_le
  rewritten_le := h.length_encode_le
  rewritten_eq_iff := h.encode_eq_iff

/-! ### Buffers -/

variable {pieces : Pieces}

theorem read_of_none (h : decode? pieces.flatten = none) : read pieces = (none, pieces) := by
  rw [decode?_eq_none] at h
  rw [read, pieces.next?_eq, pieces.remaining_eq]
  cases hfirst : pieces.flatten.head? with
  | none => rfl
  | some first =>
    have hshort := h first hfirst
    simp only [hshort, if_true]

theorem read_of_spells {v : VarInt} {k : Nat} {consumed rest : Bytes} (h : v.Spells k consumed)
    (hpieces : pieces.flatten = consumed ++ rest) :
    ∃ left, read pieces = (some v, left) ∧ left.flatten = rest := by
  obtain ⟨hbytes, hleft⟩ := pieces.takeOut_eq (width k)
  have hlong : ¬ (consumed ++ rest).length < width k := by
    rw [List.length_append, h.length]
    omega
  rw [hpieces, ← h.length, List.take_left, h.length] at hbytes
  rw [hpieces, ← h.length, List.drop_left, h.length] at hleft
  refine ⟨(pieces.takeOut (width k)).2, ?_, hleft⟩
  obtain ⟨first, tail, rfl, rfl⟩ := h.exists_cons
  rw [read, pieces.next?_eq, pieces.remaining_eq, hpieces]
  simp only [List.cons_append, List.head?_cons]
  rw [← List.cons_append, if_neg hlong, hbytes, h.ofBytes_eq]

/-- Of any bytes, in whatever pieces, no number is read just in case there are none or fewer than
the first one announces, and then the buffer stays as it is. Otherwise the announced bytes are taken
out, and no others, and their number is the one that they spell most significant byte first without
the two high bits. Written again it takes no more bytes, and the same ones unless it takes fewer. A
framed packet is malformed just in case no number can be read, and otherwise is split into the
number and the bytes behind it. -/
theorem reads_announced_bytes (pieces : Pieces) :
    (decode? pieces.flatten = none ↔ Incomplete pieces.flatten) ∧
    (decode? pieces.flatten = none → read pieces = (none, pieces)) ∧
    (∀ v rest, decode? pieces.flatten = some (v, rest) →
      ∃ consumed left, read pieces = (some v, left) ∧ left.flatten = rest ∧
        pieces.flatten = consumed ++ rest ∧ ReadAs consumed v) ∧
    (unframe pieces.flatten = .error .malformedId ↔ decode? pieces.flatten = none) ∧
    ∀ v rest, decode? pieces.flatten = some (v, rest) →
      unframe pieces.flatten = .ok (v.value, rest) := by
  refine ⟨decode?_eq_none_iff, read_of_none, ?_, ?_, ?_⟩
  · intro v rest h
    obtain ⟨k, consumed, hspells, hpieces⟩ := decode?_eq_some.mp h
    obtain ⟨left, hread, hleft⟩ := read_of_spells hspells hpieces
    exact ⟨consumed, left, hread, hleft, hpieces, hspells.readAs⟩
  · unfold unframe
    cases decode? pieces.flatten <;> simp
  · intro v rest h
    rw [unframe, h]

/-- The number 37 on two bytes, in two pieces after an empty one, is read and can be written on one.
From the first two of four bytes nothing is read. -/
theorem reads_across_pieces :
    (∃ consumed left, read [[], [0x40], [0x25, 0xaa]] = (some ⟨37, by decide⟩, left) ∧
      left.flatten = [0xaa] ∧ [[], [0x40], [0x25, 0xaa]].flatten = consumed ++ [0xaa] ∧
      ReadAs consumed ⟨37, by decide⟩) ∧
    read [[0x80], [0x00]] = (none, [[0x80], [0x00]]) :=
  ⟨(reads_announced_bytes [[], [0x40], [0x25, 0xaa]]).2.2.1 _ _ rfl,
    (reads_announced_bytes [[0x80], [0x00]]).2.1 rfl⟩

end VarInt

end MediaMux
