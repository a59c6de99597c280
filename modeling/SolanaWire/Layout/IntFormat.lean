import SolanaWire.Bytes.LittleEndian

/-!
# Integer formats

The fixed-width little-endian integers of instruction data: four unsigned widths and one signed
one, in two's complement.  On the integers that fit a format, reading undoes writing.
-/
namespace SolanaWire

/-- A fixed-width integer format. -/
inductive IntFormat
  | u8
  | u16
  | u32
  | u64
  | i64
  deriving DecidableEq

namespace IntFormat

/-- The number of bytes. -/
def width : IntFormat → Nat
  | u8 => 1
  | u16 => 2
  | u32 => 4
  | u64 => 8
  | i64 => 8

/-- The letter that names the format in messages. -/
def letter : IntFormat → Char
  | u8 => 'B'
  | u16 => 'H'
  | u32 => 'L'
  | u64 => 'Q'
  | i64 => 'q'

/-- The smallest integer that fits. -/
def least : IntFormat → Int
  | i64 => -0x8000000000000000
  | _ => 0

/-- The first integer that is too large to fit. -/
def bound : IntFormat → Int
  | u8 => 0x100
  | u16 => 0x10000
  | u32 => 0x100000000
  | u64 => 0x10000000000000000
  | i64 => 0x8000000000000000

/-- Whether an integer fits. -/
def Fits (f : IntFormat) (n : Int) : Prop := f.least ≤ n ∧ n < f.bound

instance (f : IntFormat) (n : Int) : Decidable (f.Fits n) :=
  inferInstanceAs (Decidable (_ ∧ _))

/-- The number of byte strings of the format. -/
def capacity (f : IntFormat) : Nat := LittleEndian.capacity f.width

/-- The bytes of an integer that fits. -/
def encode (f : IntFormat) (n : Int) : List UInt8 :=
  LittleEndian.encode f.width (n % f.capacity).toNat

/-- The integer that `f.width` bytes stand for. -/
def decode (f : IntFormat) (bytes : List UInt8) : Int :=
  let n := LittleEndian.decode bytes
  if n < f.bound then n else n - f.capacity

@[simp] theorem length_encode (f : IntFormat) (n : Int) : (f.encode n).length = f.width := by
  simp [encode]

/-- Reading undoes writing. -/
theorem decode_encode {f : IntFormat} {n : Int} (h : f.Fits n) : f.decode (f.encode n) = n := by
  obtain ⟨low, high⟩ := h
  have small : (n % f.capacity).toNat < f.capacity := by
    have := Int.emod_lt_of_pos n (b := f.capacity) (by cases f <;> decide)
    have := Int.emod_nonneg n (b := f.capacity) (by cases f <;> decide)
    omega
  simp only [decode, encode, LittleEndian.decode_encode_of_lt small]
  cases f <;>
    simp only [least, bound, capacity, LittleEndian.capacity, width] at * <;> omega

/-- What is read fits the format. -/
theorem fits_decode {f : IntFormat} {bytes : List UInt8} (h : bytes.length = f.width) :
    f.Fits (f.decode bytes) := by
  have := LittleEndian.decode_lt bytes
  rw [h] at this
  cases f <;>
    simp only [Fits, decode, least, bound, capacity, LittleEndian.capacity, width] at * <;> omega

/-- Writing undoes reading. -/
theorem encode_decode {f : IntFormat} {bytes : List UInt8} (h : bytes.length = f.width) :
    f.encode (f.decode bytes) = bytes := by
  have small := LittleEndian.decode_lt bytes
  rw [h] at small
  have same : (f.decode bytes % f.capacity).toNat = LittleEndian.decode bytes := by
    cases f <;>
      simp only [decode, bound, capacity, LittleEndian.capacity, width] at * <;> omega
  rw [encode, same, ← h, LittleEndian.encode_decode]

end IntFormat
end SolanaWire
