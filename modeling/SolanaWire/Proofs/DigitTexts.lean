import Mathlib.Data.List.TakeWhile
import SolanaWire.Number.Numeral
import SolanaWire.Proofs.IntegralValue

/-!
# Texts of digits

A text of seven-bit digits has no blanks, signs, underscores or marks, so it is read as a real
number digit by digit.  The text of an integer is read as the number that the integer is rounded to:
where its digits are too many to be looked at, the integer is beyond the range as well.
-/
namespace SolanaWire.Numeral

/-- What is true of each of the ten digits is true of every digit. -/
theorem forall_isDigit {P : Char → Prop} (each : ∀ n < 10, P (Char.ofNat (48 + n))) {c : Char}
    (digit : c.isDigit = true) : P c := by
  simp only [Char.isDigit, ge_iff_le, Bool.and_eq_true, decide_eq_true_eq,
    UInt32.le_iff_toNat_le] at digit
  change 48 ≤ c.toNat ∧ c.toNat ≤ 57 at digit
  have holds := each (c.toNat - 48) (by omega)
  rwa [Nat.add_sub_cancel' digit.1, Char.ofNat_toNat] at holds

theorem plainDigit_of_isDigit {c : Char} (digit : c.isDigit = true) : plainDigit c = c :=
  forall_isDigit (P := fun c => plainDigit c = c) (by decide) digit

theorem isBlank_of_isDigit {c : Char} (digit : c.isDigit = true) : isBlank c = false :=
  forall_isDigit (P := fun c => isBlank c = false) (by decide) digit

theorem toLower_of_isDigit {c : Char} (digit : c.isDigit = true) : c.toLower = c :=
  forall_isDigit (P := fun c => c.toLower = c) (by decide) digit

variable {ds : List Char}

theorem map_eq_self {f : Char → Char} (fixed : ∀ {c : Char}, c.isDigit = true → f c = c)
    (digits : ∀ c ∈ ds, c.isDigit = true) : ds.map f = ds := by
  conv_rhs => rw [← List.map_id ds]
  exact List.map_congr_left (fun c mem => fixed (digits c mem))

theorem dropWhile_isBlank (digits : ∀ c ∈ ds, c.isDigit = true) : ds.dropWhile isBlank = ds := by
  cases ds with
  | nil => rfl
  | cons c rest =>
    have visible := isBlank_of_isDigit (digits c (by simp))
    rw [List.dropWhile_cons_of_neg (by simp [visible])]

theorem trim_ofList (digits : ∀ c ∈ ds, c.isDigit = true) : trim (String.ofList ds) = ds := by
  have reversed : ∀ c ∈ ds.reverse, c.isDigit = true := by simpa using digits
  rw [trim, String.toList_ofList, dropWhile_isBlank digits, dropWhile_isBlank reversed,
    List.reverse_reverse, map_eq_self plainDigit_of_isDigit digits]

theorem joinDigits?_eq_some {previous : Char} (start : previous ≠ '_')
    (digits : ∀ c ∈ ds, c.isDigit = true) : joinDigits? previous ds = some ds := by
  induction ds generalizing previous with
  | nil => rw [joinDigits?, if_neg start]
  | cons c rest ih =>
    have digit := digits c (by simp)
    have other : c ≠ '_' := by
      rintro rfl
      cases digit
    have joined := ih other (fun c mem => digits c (by simp [mem]))
    rw [joinDigits?]
    · rw [if_neg (by simp [start]), joined]
      rfl
    · exact other

theorem splitSign_eq (digits : ∀ c ∈ ds, c.isDigit = true) : splitSign ds = (false, ds) := by
  unfold splitSign
  split
  · have digit := digits '-' (by simp)
    cases digit
  · have digit := digits '+' (by simp)
    cases digit
  · rfl

theorem natural?_eq_some (nonempty : ds ≠ []) (digits : ∀ c ∈ ds, c.isDigit = true) :
    natural? ds = some (digitsValue ds) := by
  rw [natural?, if_pos]
  simpa [nonempty] using digits

theorem decimal?_eq_some (nonempty : ds ≠ []) (digits : ∀ c ∈ ds, c.isDigit = true) :
    decimal? false ds = some (ofDecimal false (digitsValue ds) 0) := by
  have whole : ds.takeWhile Char.isDigit = ds := List.takeWhile_eq_self_iff.2 digits
  have rest : ds.dropWhile Char.isDigit = [] := List.dropWhile_eq_nil_iff.2 digits
  simp [decimal?, whole, rest, natural?_eq_some nonempty digits, exponent?]

/-- A word for a number is none of digits. -/
theorem ofList_map_toLower_ne {c : Char} {rest : List Char} (letter : c.isDigit = false)
    (digits : ∀ c ∈ ds, c.isDigit = true) :
    String.ofList (ds.map Char.toLower) ≠ String.ofList (c :: rest) := by
  intro same
  rw [map_eq_self toLower_of_isDigit digits, String.ofList_inj] at same
  have digit := digits c (by simp [same])
  rw [letter] at digit
  cases digit

theorem real?_ofList (nonempty : ds ≠ []) (digits : ∀ c ∈ ds, c.isDigit = true) :
    real? (String.ofList ds) = some (ofDecimal false (digitsValue ds) 0) := by
  rw [real?, trim_ofList digits, joinDigits?_eq_some (by decide) digits]
  simp only [Option.bind_eq_bind, Option.bind_some, splitSign_eq digits]
  split
  · rename_i word
    exact absurd word (ofList_map_toLower_ne (c := 'i') (by decide) digits)
  · rename_i word
    exact absurd word (ofList_map_toLower_ne (c := 'i') (by decide) digits)
  · rename_i word
    exact absurd word (ofList_map_toLower_ne (c := 'n') (by decide) digits)
  · exact decimal?_eq_some nonempty digits

theorem digitsValue_toDigits (k : Nat) : digitsValue (Nat.toDigits 10 k) = k := by
  have read := Nat.ofDigitChars_ten_toDigits (n := k)
  rwa [Nat.ofDigitChars_eq_foldl] at read

/-- A decimal of too many digits to be looked at is beyond the range. -/
theorem limit_le_of_length_toDigits {k : Nat} (long : 400 < (Nat.toDigits 10 k).length) :
    Binary64.limit ≤ (k : ℚ) := by
  have large : (10 ^ 25) ^ 16 ≤ k := by
    rw [← pow_mul, ← not_lt, ← Nat.length_toDigits_le_iff (by decide) (by decide)]
    exact not_le.2 long
  have power : Binary64.limit = ((2 ^ 64) ^ 16 : ℚ) := by
    rw [Binary64.limit, ← pow_mul, ← zpow_natCast]
    rfl
  calc Binary64.limit = (2 ^ 64) ^ 16 := power
    _ ≤ (10 ^ 25) ^ 16 := pow_le_pow_left₀ (by norm_num) (by norm_num) 16
    _ ≤ k := by exact_mod_cast large

theorem ofDecimal_zero (k : Nat) : ofDecimal false k 0 = Binary64.ofInt k := by
  rw [Binary64.ofInt_natCast, ofDecimal]
  split_ifs with small huge
  · have zero : k = 0 := by omega
    rw [zero]
    rfl
  · have long : 400 < (Nat.toDigits 10 k).length := by omega
    rw [Binary64.ofRatio_of_limit_le false (limit_le_of_length_toDigits long)]
  · simp [Binary64.powerOfTen]
  · omega

/-- The text of an integer is read as the number that the integer is rounded to. -/
theorem real?_toString (k : Nat) : real? (toString k) = some (Binary64.ofInt k) := by
  have digits : ∀ c ∈ Nat.toDigits 10 k, c.isDigit = true := fun c mem =>
    Nat.isDigit_of_mem_toDigits (by decide) (by decide) mem
  have nonempty : Nat.toDigits 10 k ≠ [] := List.ne_nil_of_length_pos Nat.length_toDigits_pos
  have read := real?_ofList nonempty digits
  rw [digitsValue_toDigits, ofDecimal_zero] at read
  exact read

end SolanaWire.Numeral
