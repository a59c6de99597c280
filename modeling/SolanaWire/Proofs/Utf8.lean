import SolanaWire.Bytes.Utf8

/-!
# Reading and writing UTF-8

Reading undoes writing, and what is read is written back byte by byte, so every byte string is the
encoding of at most one text.  Both directions go by the four sizes of a character: its first byte
shows the size and its highest bits, and each further byte carries six bits.
-/
namespace SolanaWire.Utf8

theorem payload?_continuation {n : Nat} (h : n < 0x40) : payload? (continuation n) = some n := by
  have value : (continuation n).toNat = 0x80 + n := by
    rw [continuation, UInt8.toNat_ofNat']
    exact Nat.mod_eq_of_lt (by omega)
  rw [payload?, value, if_pos (by omega), Nat.add_sub_cancel_left]

theorem eq_continuation {b : UInt8} {n : Nat} (h : payload? b = some n) :
    n < 0x40 ∧ b = continuation n := by
  unfold payload? at h
  split at h
  · rename_i range
    have same : b.toNat = 0x80 + n := by
      have := Option.some.inj h
      omega
    refine ⟨by omega, ?_⟩
    rw [continuation, ← same, UInt8.ofNat_toNat]
  · cases h

theorem scalar?_toNat {c : Char} {least : Nat} (h : least ≤ c.toNat) :
    scalar? least c.toNat = some c := by
  rw [scalar?, if_pos ⟨h, c.valid⟩, Char.ofNat_toNat]

theorem toNat_ofNat {n : Nat} (h : n.isValidChar) : (Char.ofNat n).toNat = n := by
  rw [Char.ofNat, dif_pos h]
  rfl

theorem toNat_of_scalar? {c : Char} {least n : Nat} (h : scalar? least n = some c) :
    least ≤ n ∧ c.toNat = n := by
  unfold scalar? at h
  split at h
  · rename_i fits
    cases h
    exact ⟨fits.1, toNat_ofNat fits.2⟩
  · cases h

theorem toNat_lt (c : Char) : c.toNat < 0x110000 := by
  have valid : c.toNat.isValidChar := c.valid
  unfold Nat.isValidChar at valid
  omega

/-- A first byte shows the class of its character and the highest bits of it. -/
theorem toNat_first {base n : Nat} (h : base + n < 0x100) :
    (UInt8.ofNat (base + n)).toNat = base + n := by
  rw [UInt8.toNat_ofNat']
  exact Nat.mod_eq_of_lt h

theorem decode?_one {n : Nat} (h : n < 0x80) (rest : List UInt8) :
    decode? (UInt8.ofNat n :: rest) = (decode? rest).map (Char.ofNat n :: ·) := by
  have first : (UInt8.ofNat n).toNat = n := by
    rw [UInt8.toNat_ofNat']
    exact Nat.mod_eq_of_lt (by omega)
  rw [decode?.eq_def]
  simp only [first, if_pos h]
  cases decode? rest <;> rfl

theorem decode?_two {a b : Nat} (ha : a < 0x20) (hb : b < 0x40) (rest : List UInt8) :
    decode? (UInt8.ofNat (0xC0 + a) :: continuation b :: rest) =
      (scalar? 0x80 (0x40 * a + b)).bind (fun c => (decode? rest).map (c :: ·)) := by
  have first : (UInt8.ofNat (0xC0 + a)).toNat = 0xC0 + a := toNat_first (by omega)
  rw [decode?]
  simp only [first, payload?_continuation hb, Nat.add_sub_cancel_left,
    Option.bind_eq_bind, Option.bind_some]
  rw [if_neg (by omega), if_neg (by omega), if_pos (by omega)]
  cases decode? rest <;> rfl

theorem decode?_three {a b c : Nat} (ha : a < 0x10) (hb : b < 0x40) (hc : c < 0x40)
    (rest : List UInt8) :
    decode? (UInt8.ofNat (0xE0 + a) :: continuation b :: continuation c :: rest) =
      (scalar? 0x800 (0x1000 * a + 0x40 * b + c)).bind
        (fun d => (decode? rest).map (d :: ·)) := by
  have first : (UInt8.ofNat (0xE0 + a)).toNat = 0xE0 + a := toNat_first (by omega)
  rw [decode?]
  simp only [first, payload?_continuation hb, payload?_continuation hc, Nat.add_sub_cancel_left,
    Option.bind_eq_bind, Option.bind_some]
  rw [if_neg (by omega), if_neg (by omega), if_neg (by omega), if_pos (by omega)]
  cases decode? rest <;> rfl

theorem decode?_four {a b c d : Nat} (ha : a < 0x10) (hb : b < 0x40) (hc : c < 0x40)
    (hd : d < 0x40) (rest : List UInt8) :
    decode? (UInt8.ofNat (0xF0 + a) :: continuation b :: continuation c :: continuation d :: rest) =
      (scalar? 0x10000 (0x40000 * a + 0x1000 * b + 0x40 * c + d)).bind
        (fun e => (decode? rest).map (e :: ·)) := by
  have first : (UInt8.ofNat (0xF0 + a)).toNat = 0xF0 + a := toNat_first (by omega)
  rw [decode?]
  simp only [first, payload?_continuation hb, payload?_continuation hc, payload?_continuation hd,
    Nat.add_sub_cancel_left, Option.bind_eq_bind, Option.bind_some]
  rw [if_neg (by omega), if_neg (by omega), if_neg (by omega), if_neg (by omega)]
  cases decode? rest <;> rfl

theorem decode?_encodeChar_append (c : Char) (rest : List UInt8) :
    decode? (encodeChar c ++ rest) = (decode? rest).map (c :: ·) := by
  have bound := toNat_lt c
  simp only [encodeChar]
  split
  · rename_i small
    rw [List.cons_append, List.nil_append, decode?_one small, Char.ofNat_toNat]
  split
  · have whole : 0x40 * (c.toNat / 0x40) + c.toNat % 0x40 = c.toNat := Nat.div_add_mod ..
    simp only [List.cons_append, List.nil_append]
    rw [decode?_two (by omega) (by omega), whole, scalar?_toNat (by omega), Option.bind_some]
  split
  · have whole : 0x1000 * (c.toNat / 0x1000) + 0x40 * (c.toNat / 0x40 % 0x40) + c.toNat % 0x40 =
        c.toNat := by omega
    simp only [List.cons_append, List.nil_append]
    rw [decode?_three (by omega) (by omega) (by omega), whole, scalar?_toNat (by omega),
      Option.bind_some]
  · have whole : 0x40000 * (c.toNat / 0x40000) + 0x1000 * (c.toNat / 0x1000 % 0x40) +
        0x40 * (c.toNat / 0x40 % 0x40) + c.toNat % 0x40 = c.toNat := by omega
    simp only [List.cons_append, List.nil_append]
    rw [decode?_four (by omega) (by omega) (by omega) (by omega), whole,
      scalar?_toNat (by omega), Option.bind_some]

@[simp] theorem encode_cons (c : Char) (text : List Char) :
    encode (c :: text) = encodeChar c ++ encode text := rfl

theorem decode?_encode (text : List Char) : decode? (encode text) = some text := by
  induction text with
  | nil => rfl
  | cons c text ih =>
    rw [encode_cons, decode?_encodeChar_append, ih, Option.map_some]

theorem eq_first {b : UInt8} {base : Nat} (h : base ≤ b.toNat) :
    b = UInt8.ofNat (base + (b.toNat - base)) := by
  rw [Nat.add_sub_cancel' h, UInt8.ofNat_toNat]

theorem encodeChar_one {n : Nat} (h : n < 0x80) :
    encodeChar (Char.ofNat n) = [UInt8.ofNat n] := by
  have value : (Char.ofNat n).toNat = n := toNat_ofNat (Or.inl (by omega))
  simp only [encodeChar, value, if_pos h]

theorem encodeChar_two {a b : Nat} {c : Char} (hb : b < 0x40)
    (h : scalar? 0x80 (0x40 * a + b) = some c) (ha : a < 0x20) :
    encodeChar c = [UInt8.ofNat (0xC0 + a), continuation b] := by
  obtain ⟨low, value⟩ := toNat_of_scalar? h
  have high : (0x40 * a + b) / 0x40 = a := by omega
  have rest : (0x40 * a + b) % 0x40 = b := by omega
  simp only [encodeChar, value]
  rw [if_neg (by omega), if_pos (by omega), high, rest]

theorem encodeChar_three {a b c : Nat} {d : Char} (hb : b < 0x40) (hc : c < 0x40)
    (h : scalar? 0x800 (0x1000 * a + 0x40 * b + c) = some d) (ha : a < 0x10) :
    encodeChar d = [UInt8.ofNat (0xE0 + a), continuation b, continuation c] := by
  obtain ⟨low, value⟩ := toNat_of_scalar? h
  have high : (0x1000 * a + 0x40 * b + c) / 0x1000 = a := by omega
  have mid : (0x1000 * a + 0x40 * b + c) / 0x40 % 0x40 = b := by omega
  have rest : (0x1000 * a + 0x40 * b + c) % 0x40 = c := by omega
  simp only [encodeChar, value]
  rw [if_neg (by omega), if_neg (by omega), if_pos (by omega), high, mid, rest]

theorem encodeChar_four {a b c d : Nat} {e : Char} (hb : b < 0x40) (hc : c < 0x40) (hd : d < 0x40)
    (h : scalar? 0x10000 (0x40000 * a + 0x1000 * b + 0x40 * c + d) = some e) :
    encodeChar e = [UInt8.ofNat (0xF0 + a), continuation b, continuation c, continuation d] := by
  obtain ⟨low, value⟩ := toNat_of_scalar? h
  have high : (0x40000 * a + 0x1000 * b + 0x40 * c + d) / 0x40000 = a := by omega
  have mid : (0x40000 * a + 0x1000 * b + 0x40 * c + d) / 0x1000 % 0x40 = b := by omega
  have low' : (0x40000 * a + 0x1000 * b + 0x40 * c + d) / 0x40 % 0x40 = c := by omega
  have rest : (0x40000 * a + 0x1000 * b + 0x40 * c + d) % 0x40 = d := by omega
  simp only [encodeChar, value]
  rw [if_neg (by omega), if_neg (by omega), if_neg (by omega), high, mid, low', rest]

theorem encode_of_decode? {bytes : List UInt8} {text : List Char} (h : decode? bytes = some text) :
    encode text = bytes := by
  fun_induction decode? bytes generalizing text with
  | case1 => cases h; rfl
  | case2 b₀ rest n small =>
    rename_i ih
    simp only [Option.bind_eq_bind, Option.bind_eq_some_iff, Option.pure_def,
      Option.some.injEq] at h
    obtain ⟨cs, hcs, rfl⟩ := h
    rw [encode_cons, ih hcs, encodeChar_one small, UInt8.ofNat_toNat, List.singleton_append]
  | case3 => cases h
  | case4 b₀ n h₀ h₁ h₂ b₁ rest =>
    rename_i ih
    simp only [Option.bind_eq_bind, Option.bind_eq_some_iff, Option.pure_def,
      Option.some.injEq] at h
    obtain ⟨k₁, hk₁, c, hc, cs, hcs, rfl⟩ := h
    obtain ⟨small₁, rfl⟩ := eq_continuation hk₁
    rw [encode_cons, ih hcs, encodeChar_two small₁ hc (by omega), ← eq_first (by omega)]
    rfl
  | case5 => cases h
  | case6 b₀ n h₀ h₁ h₂ h₃ b₁ b₂ rest =>
    rename_i ih
    simp only [Option.bind_eq_bind, Option.bind_eq_some_iff, Option.pure_def,
      Option.some.injEq] at h
    obtain ⟨k₁, hk₁, k₂, hk₂, c, hc, cs, hcs, rfl⟩ := h
    obtain ⟨small₁, rfl⟩ := eq_continuation hk₁
    obtain ⟨small₂, rfl⟩ := eq_continuation hk₂
    rw [encode_cons, ih hcs, encodeChar_three small₁ small₂ hc (by omega), ← eq_first (by omega)]
    rfl
  | case7 => cases h
  | case8 b₀ n h₀ h₁ h₂ h₃ b₁ b₂ b₃ rest =>
    rename_i ih
    simp only [Option.bind_eq_bind, Option.bind_eq_some_iff, Option.pure_def,
      Option.some.injEq] at h
    obtain ⟨k₁, hk₁, k₂, hk₂, k₃, hk₃, c, hc, cs, hcs, rfl⟩ := h
    obtain ⟨small₁, rfl⟩ := eq_continuation hk₁
    obtain ⟨small₂, rfl⟩ := eq_continuation hk₂
    obtain ⟨small₃, rfl⟩ := eq_continuation hk₃
    rw [encode_cons, ih hcs, encodeChar_four small₁ small₂ small₃ hc, ← eq_first (by omega)]
    rfl
  | case9 => cases h
end SolanaWire.Utf8
