import SolanaWire.Layout.FieldType
import SolanaWire.Proofs.Outcome
import SolanaWire.Proofs.Utf8

/-!
# Reading the parts of a field

Each part of a field is read off the front of some bytes exactly if they begin with the bytes that
stand for it.  The rest is whatever follows.
-/
namespace SolanaWire
open Outcome

theorem readExactly_eq_ok_iff {n : Nat} {bytes front rest : List UInt8} :
    readExactly n bytes = .ok (front, rest) ↔ front.length = n ∧ bytes = front ++ rest := by
  constructor
  · intro h
    unfold readExactly at h
    split at h
    · rename_i enough
      cases h
      exact ⟨List.length_take_of_le enough, (List.take_append_drop n bytes).symm⟩
    · cases h
  · rintro ⟨width, rfl⟩
    exact readExactly_append width

theorem read_eq_ok_iff {f : IntFormat} {bytes rest : List UInt8} {n : Int} :
    f.read bytes = .ok (n, rest) ↔ f.Fits n ∧ bytes = f.encode n ++ rest := by
  constructor
  · intro h
    rw [IntFormat.read, bind_eq_ok_iff] at h
    obtain ⟨⟨word, tail⟩, hword, h⟩ := h
    obtain ⟨width, rfl⟩ := readExactly_eq_ok_iff.1 hword
    cases h
    exact ⟨IntFormat.fits_decode width, by rw [IntFormat.encode_decode width]⟩
  · rintro ⟨fits, rfl⟩
    rw [IntFormat.read, readExactly_append (IntFormat.length_encode f n), ok_bind]
    simp only [IntFormat.decode_encode fits]
    rfl

theorem readLength_eq_ok_iff {bytes rest : List UInt8} {n : Nat} :
    readLength bytes = .ok (n, rest) ↔
      n < LittleEndian.capacity 8 ∧ bytes = lengthPrefix n ++ rest := by
  constructor
  · intro h
    rw [readLength, bind_eq_ok_iff] at h
    obtain ⟨⟨word, tail⟩, hword, h⟩ := h
    obtain ⟨width, rfl⟩ := readExactly_eq_ok_iff.1 hword
    cases h
    refine ⟨width ▸ LittleEndian.decode_lt word, ?_⟩
    rw [lengthPrefix, ← width, LittleEndian.encode_decode]
  · rintro ⟨fits, rfl⟩
    rw [readLength, lengthPrefix, readExactly_append (LittleEndian.length_encode 8 n), ok_bind]
    simp only [LittleEndian.decode_encode_of_lt fits]
    rfl

theorem readBytes32_eq_ok_iff {bytes rest : List UInt8} {k : Bytes32} :
    readBytes32 bytes = .ok (k, rest) ↔ bytes = k.bytes ++ rest := by
  constructor
  · intro h
    unfold readBytes32 at h
    split at h
    · cases h
      exact (List.take_append_drop 32 bytes).symm
    · cases h
  · rintro rfl
    have enough : 32 ≤ (k.bytes ++ rest).length := by simp [k.length_eq]
    rw [readBytes32, dif_pos enough]
    simp [← k.length_eq]

theorem readText_eq_ok_iff {bytes rest : List UInt8} {s : String} :
    readText bytes = .ok (s, rest) ↔ (Utf8.encode s.toList).length < lengthLimit ∧
      bytes = lengthPrefix (Utf8.encode s.toList).length ++ (Utf8.encode s.toList ++ rest) := by
  constructor
  · intro h
    rw [readText, bind_eq_ok_iff] at h
    obtain ⟨⟨n, tail⟩, hn, h⟩ := h
    obtain ⟨-, rfl⟩ := readLength_eq_ok_iff.1 hn
    dsimp only at h
    split at h
    · cases h
    rename_i short
    rw [bind_eq_ok_iff] at h
    obtain ⟨⟨front, tail⟩, hfront, h⟩ := h
    obtain ⟨rfl, rfl⟩ := readExactly_eq_ok_iff.1 hfront
    split at h
    · rename_i chars decoded
      cases h
      rw [String.toList_ofList, Utf8.encode_of_decode? decoded]
      exact ⟨Nat.lt_of_not_le short, rfl⟩
    · cases h
  · rintro ⟨short, rfl⟩
    have fits : (Utf8.encode s.toList).length < LittleEndian.capacity 8 :=
      Nat.lt_of_lt_of_le short (by decide)
    rw [readText, readLength_eq_ok_iff.2 ⟨fits, rfl⟩, ok_bind]
    simp only [if_neg (Nat.not_le_of_lt short)]
    rw [readExactly_append rfl]
    simp only [ok_bind, Utf8.decode?_encode, String.ofList_toList]
    rfl

end SolanaWire
