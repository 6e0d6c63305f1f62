/-! # Byte buffers

Bytes that have arrived and wait to be used: what is new goes to the end, what is used up
leaves at the front.
-/

namespace LanguageClient

/-- Bytes in order of arrival. -/
structure ByteBuffer where
  bytes : List UInt8 := []
  deriving Repr, DecidableEq

namespace ByteBuffer

def size (buffer : ByteBuffer) : Nat :=
  buffer.bytes.length

def append (buffer : ByteBuffer) (data : List UInt8) : ByteBuffer :=
  ⟨buffer.bytes ++ data⟩

def indexOf? (pattern : List UInt8) : List UInt8 → Option Nat
  | [] => if pattern.isEmpty then some 0 else none
  | byte :: rest =>
    if pattern.isPrefixOf (byte :: rest) then some 0
    else (indexOf? pattern rest).map (· + 1)

/-- The place in the buffer where some bytes first occur. -/
def find? (buffer : ByteBuffer) (pattern : List UInt8) : Option Nat :=
  indexOf? pattern buffer.bytes

/-- Whether at least so many bytes wait. Only as many are looked at. -/
def holds (buffer : ByteBuffer) (count : Nat) : Bool :=
  count == 0 || !(buffer.bytes.drop (count - 1)).isEmpty

/-- Take bytes from the front: as many as there are, if more are asked for, and none if less
    than one is. -/
def consume (buffer : ByteBuffer) (count : Int) : List UInt8 × ByteBuffer :=
  (buffer.bytes.take count.toNat, ⟨buffer.bytes.drop count.toNat⟩)

theorem holds_iff {buffer : ByteBuffer} {count : Nat} :
    buffer.holds count = true ↔ count ≤ buffer.size := by
  cases count with
  | zero => exact iff_of_true rfl (Nat.zero_le _)
  | succ n =>
    have hlength : (buffer.bytes.drop n).length = buffer.bytes.length - n := List.length_drop
    have hholds : buffer.holds (n + 1) = !(buffer.bytes.drop n).isEmpty := rfl
    rw [hholds]
    unfold size
    cases hrest : buffer.bytes.drop n with
    | nil =>
      rw [hrest, List.length_nil] at hlength
      exact iff_of_false Bool.false_ne_true (by omega)
    | cons byte rest =>
      rw [hrest, List.length_cons] at hlength
      exact iff_of_true rfl (by omega)

@[simp]
theorem size_append (buffer : ByteBuffer) (data : List UInt8) :
    (buffer.append data).size = buffer.size + data.length := by
  simp [append, size]

@[simp]
theorem size_consume (buffer : ByteBuffer) (count : Int) :
    (buffer.consume count).2.size = buffer.size - count.toNat := by
  simp [consume, size]

theorem size_consume_natCast (buffer : ByteBuffer) (count : Nat) :
    (buffer.consume count).2.size = buffer.size - count := by
  simp

/-- Bytes that are found stand inside what was searched. -/
theorem indexOf?_add_length_le {pattern bytes : List UInt8} {place : Nat}
    (h : indexOf? pattern bytes = some place) : place + pattern.length ≤ bytes.length := by
  induction bytes generalizing place with
  | nil =>
    unfold indexOf? at h
    split at h
    · next hp =>
      simp only [Option.some.injEq] at h
      simp [← h, List.isEmpty_iff.mp hp]
    · simp at h
  | cons byte rest ih =>
    unfold indexOf? at h
    split at h
    · next hp =>
      simp only [Option.some.injEq] at h
      have := (List.isPrefixOf_iff_prefix.mp hp).length_le
      omega
    · obtain ⟨before, hb, heq⟩ := Option.map_eq_some_iff.mp h
      have := ih hb
      simp only [List.length_cons]
      omega

end ByteBuffer

end LanguageClient
