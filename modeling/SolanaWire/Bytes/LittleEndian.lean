/-!
# Little-endian numbers

A number below `capacity width` is written as `width` bytes, least significant first.  Writing
keeps the remainder modulo the capacity, and on byte strings of one width reading and writing are
inverse to each other.
-/
namespace SolanaWire.LittleEndian

/-- The number of byte strings of a width. -/
def capacity : (width : Nat) → Nat
  | 0 => 1
  | width + 1 => 256 * capacity width

/-- The `width` lowest bytes of a number, least significant first. -/
def encode : (width : Nat) → Nat → List UInt8
  | 0, _ => []
  | width + 1, n => UInt8.ofNat (n % 256) :: encode width (n / 256)

/-- The number whose bytes, least significant first, are given. -/
def decode : List UInt8 → Nat
  | [] => 0
  | b :: bs => b.toNat + 256 * decode bs

@[simp] theorem length_encode (width n : Nat) : (encode width n).length = width := by
  induction width generalizing n with
  | zero => rfl
  | succ width ih => simp [encode, ih]

theorem decode_lt (bytes : List UInt8) : decode bytes < capacity bytes.length := by
  induction bytes with
  | nil => simp [decode, capacity]
  | cons b bs ih =>
    have := b.toNat_lt
    simp only [decode, List.length_cons, capacity]
    omega

@[simp] theorem decode_encode (width n : Nat) :
    decode (encode width n) = n % capacity width := by
  induction width generalizing n with
  | zero => simp [encode, decode, capacity, Nat.mod_one]
  | succ width ih =>
    have step : n % capacity (width + 1) = n % 256 + 256 * (n / 256 % capacity width) := by
      rw [capacity, Nat.mod_mul]
    have low : (UInt8.ofNat (n % 256)).toNat = n % 256 := by
      simp [UInt8.toNat_ofNat']
    simp only [encode, decode, ih, low, step]

theorem decode_encode_of_lt {width n : Nat} (h : n < capacity width) :
    decode (encode width n) = n := by
  rw [decode_encode, Nat.mod_eq_of_lt h]

@[simp] theorem encode_decode (bytes : List UInt8) :
    encode bytes.length (decode bytes) = bytes := by
  induction bytes with
  | nil => rfl
  | cons b bs ih =>
    have hb := b.toNat_lt
    have low : (b.toNat + 256 * decode bs) % 256 = b.toNat := by omega
    have high : (b.toNat + 256 * decode bs) / 256 = decode bs := by omega
    simp only [List.length_cons, encode, decode, low, high, ih, UInt8.ofNat_toNat]

end SolanaWire.LittleEndian
