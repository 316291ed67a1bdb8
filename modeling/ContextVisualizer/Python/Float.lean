import ContextVisualizer.Python.Value

/-!
# `float()` of an int

`sum` turns its running int into a float, and an int item into a float, the first time a float
meets an int (`Total.add`). CPython does this with `PyLong_AsDouble`: the magnitude is rounded to
53 significant bits, half to even; a carry out of the top bit moves into the exponent; and the
conversion raises `OverflowError` when the exponent is beyond the largest float's.

`longAsDouble` is that conversion on the bit pattern of `PyFloat`. It answers on every int of
magnitude below `2 ^ 1024 - 2 ^ 970` (`longAsDouble_ok`) and raises on every other
(`longAsDouble_overflow`): at `2 ^ 1024 - 2 ^ 970` the largest float and `2 ^ 1024` are equally
near, and the tie goes to the even significand, which overflows.
-/

namespace ContextVisualizer

/-! ### Rounding a magnitude -/

/-- The number of binary digits of `m`, reading at most `fuel` of them. -/
def bitsOf : Nat → Nat → Nat
  | 0, _ => 0
  | fuel + 1, m => if m = 0 then 0 else bitsOf fuel (m / 2) + 1

/-- The number of binary digits of `m` (`int.bit_length`); `m` digits are always enough. -/
def bitLength (m : Nat) : Nat := bitsOf m m

/-- Round `m / 2 ^ s` to the nearest integer, ties to even. -/
def roundHalfEven (m s : Nat) : Nat :=
  if 2 ^ s < 2 * (m % 2 ^ s) ∨ (2 * (m % 2 ^ s) = 2 ^ s ∧ m / 2 ^ s % 2 = 1) then m / 2 ^ s + 1
  else m / 2 ^ s

/-- A magnitude rounded to 53 significant bits: a significand `q` and a scale `e`, the value
being `q * 2 ^ e`. A carry out of the top bit moves into the scale. -/
def roundSignificand (m : Nat) : Nat × Nat :=
  if roundHalfEven m (bitLength m - 53) = 2 ^ 53 then (2 ^ 52, bitLength m - 53 + 1)
  else (roundHalfEven m (bitLength m - 53), bitLength m - 53)

/-- The least magnitude `float()` rounds past the largest float: `2 ^ 1024 - 2 ^ 970`. -/
def floatLimit : Nat := 2 ^ 1024 - 2 ^ 970

/-- The float `float(n)` gives, as CPython computes it (`PyLong_AsDouble`): the sign, the
biased exponent and the fraction of the rounded magnitude, or `OverflowError` when the exponent
is beyond the largest float's. -/
def longAsDouble (n : Int) : Except PyError PyFloat :=
  if n = 0 then .ok ⟨0⟩ else
  let q := (roundSignificand n.natAbs).1
  let biased := bitLength q + (roundSignificand n.natAbs).2 + 1022
  if 2047 ≤ biased then .error .overflowError
  else .ok ⟨UInt64.ofNat ((if n < 0 then 2 ^ 63 else 0) + biased * 2 ^ 52 +
    (q * 2 ^ (53 - bitLength q) - 2 ^ 52))⟩

/-! ### Binary digits -/

lemma bitsOf_spec : ∀ {fuel m : Nat}, m ≠ 0 → m ≤ fuel →
    2 ^ (bitsOf fuel m - 1) ≤ m ∧ m < 2 ^ bitsOf fuel m
  | 0, _, h0, hf => absurd (Nat.le_zero.1 hf) h0
  | fuel + 1, m, h0, hf => by
    rw [bitsOf, if_neg h0, Nat.add_sub_cancel]
    by_cases h1 : m / 2 = 0
    · obtain rfl : m = 1 := by omega
      cases fuel <;> simp [bitsOf]
    · obtain ⟨lo, hi⟩ := bitsOf_spec h1 (show m / 2 ≤ fuel by omega)
      obtain ⟨b, hb⟩ : ∃ b, bitsOf fuel (m / 2) = b + 1 :=
        Nat.exists_eq_succ_of_ne_zero fun e => by rw [e] at hi; omega
      rw [hb, Nat.add_sub_cancel] at lo
      rw [hb, pow_succ] at hi
      rw [hb, pow_succ, pow_succ]
      omega

/-- A nonzero `m` lies between `2 ^ (bitLength m - 1)` and `2 ^ bitLength m`. -/
lemma bitLength_spec {m : Nat} (h0 : m ≠ 0) :
    2 ^ (bitLength m - 1) ≤ m ∧ m < 2 ^ bitLength m :=
  bitsOf_spec h0 le_rfl

lemma bitLength_eq_of_bounds {q k : Nat} (h₁ : 2 ^ k ≤ q) (h₂ : q < 2 ^ (k + 1)) :
    bitLength q = k + 1 := by
  obtain ⟨lo, hi⟩ := bitLength_spec (show q ≠ 0 by have := Nat.two_pow_pos k; omega)
  have := (Nat.pow_lt_pow_iff_right (by norm_num : 1 < 2)).1 (lo.trans_lt h₂)
  have := (Nat.pow_lt_pow_iff_right (by norm_num : 1 < 2)).1 (h₁.trans_lt hi)
  omega

/-! ### The two binades -/

lemma roundHalfEven_bounds (m s : Nat) :
    m / 2 ^ s ≤ roundHalfEven m s ∧ roundHalfEven m s ≤ m / 2 ^ s + 1 := by
  unfold roundHalfEven; split <;> omega

lemma roundHalfEven_zero (m : Nat) : roundHalfEven m 0 = m := by
  simp [roundHalfEven, Nat.mod_one]

/-- A magnitude of at most 53 binary digits is its own significand. -/
lemma roundSignificand_of_small {m : Nat} (hm : bitLength m ≤ 53) :
    roundSignificand m = (m, 0) := by
  have hne : m ≠ 2 ^ 53 := fun e => by
    have := bitLength_eq_of_bounds (le_of_eq e.symm) (show m < 2 ^ (53 + 1) by rw [e]; norm_num)
    omega
  simp only [roundSignificand, show bitLength m - 53 = 0 by omega, roundHalfEven_zero, if_neg hne]

/-- A magnitude of `s + 54` binary digits rounds to a 53-digit significand, at scale `s + 1`, or
`s + 2` after a carry. -/
lemma roundSignificand_of_large {m s : Nat} (hs : bitLength m = s + 54) :
    bitLength (roundSignificand m).1 = 53 ∧
      (roundSignificand m).2 = if roundHalfEven m (s + 1) = 2 ^ 53 then s + 2 else s + 1 := by
  obtain ⟨lo, hi⟩ :=
    bitLength_spec (show m ≠ 0 from fun e => by simp [e, bitLength, bitsOf] at hs)
  rw [hs, show s + 54 - 1 = 52 + (s + 1) by omega, pow_add] at lo
  rw [hs, show s + 54 = 53 + (s + 1) by omega, pow_add] at hi
  have hlo : 2 ^ 52 ≤ m / 2 ^ (s + 1) := (Nat.le_div_iff_mul_le (Nat.two_pow_pos _)).2 lo
  have hhi : m / 2 ^ (s + 1) < 2 ^ 53 := (Nat.div_lt_iff_lt_mul (Nat.two_pow_pos _)).2 hi
  obtain ⟨hr₁, hr₂⟩ := roundHalfEven_bounds m (s + 1)
  unfold roundSignificand
  rw [hs, show s + 54 - 53 = s + 1 by omega]
  split
  · exact ⟨bitLength_eq_of_bounds le_rfl (by norm_num), rfl⟩
  · exact ⟨bitLength_eq_of_bounds (by omega) (by omega), rfl⟩

/-! ### Where `float()` overflows -/

/-- Below the limit the top binade does not carry: `m / 2 ^ 971` rounds below `2 ^ 53`. -/
lemma roundHalfEven_top {m : Nat} (hm : m < floatLimit) : roundHalfEven m 971 < 2 ^ 53 := by
  have hq := Nat.div_add_mod m (2 ^ 971)
  have hr := Nat.mod_lt m (Nat.two_pow_pos 971)
  unfold roundHalfEven floatLimit at *
  norm_num at *
  split <;> omega

/-- From the limit on, the top binade carries: `m / 2 ^ 971` rounds to `2 ^ 53`. -/
lemma roundHalfEven_carry {m : Nat} (hm : floatLimit ≤ m) (hL : bitLength m = 1024) :
    roundHalfEven m 971 = 2 ^ 53 := by
  have hm' := (bitLength_spec (show m ≠ 0 by unfold floatLimit at hm; omega)).2
  rw [hL] at hm'
  have hq := Nat.div_add_mod m (2 ^ 971)
  have hr := Nat.mod_lt m (Nat.two_pow_pos 971)
  unfold roundHalfEven floatLimit at *
  norm_num at *
  split <;> omega

lemma two_pow_lt_floatLimit : 2 ^ 1023 < floatLimit := by
  have e₁ : (2 : Nat) ^ 1024 = 2 ^ 54 * 2 ^ 970 := by rw [← pow_add]
  have e₂ : (2 : Nat) ^ 1023 = 2 ^ 53 * 2 ^ 970 := by rw [← pow_add]
  have := Nat.two_pow_pos 970
  unfold floatLimit
  rw [e₁, e₂]
  norm_num

/-- Below the limit the rounded magnitude has at most 1024 binary digits. -/
lemma roundSignificand_top {m : Nat} (h0 : m ≠ 0) (hm : m < floatLimit) :
    bitLength (roundSignificand m).1 + (roundSignificand m).2 ≤ 1024 := by
  obtain ⟨lo, -⟩ := bitLength_spec h0
  have hL : bitLength m ≤ 1024 := by
    have := (Nat.pow_lt_pow_iff_right (by norm_num : 1 < 2)).1
      (lo.trans_lt (show m < 2 ^ 1024 by unfold floatLimit at hm; omega))
    omega
  by_cases hsmall : bitLength m ≤ 53
  · rw [roundSignificand_of_small hsmall]
    exact hL
  · obtain ⟨s, hs⟩ : ∃ s, bitLength m = s + 54 := ⟨bitLength m - 54, by omega⟩
    obtain ⟨hq, he⟩ := roundSignificand_of_large hs
    rw [hq, he]
    split
    · next hc =>
      -- a carry at the top binade would need `m` at the limit
      have : s ≠ 970 := fun e => by
        have := roundHalfEven_top hm
        subst e
        rw [hc] at this
        exact lt_irrefl _ this
      omega
    · omega

/-- Below the limit, `float(n)` answers. -/
theorem longAsDouble_ok {n : Int} (h : n.natAbs < floatLimit) : ∃ x, longAsDouble n = .ok x := by
  unfold longAsDouble
  split
  · exact ⟨_, rfl⟩
  · next h0 =>
    have := roundSignificand_top (Int.natAbs_ne_zero.2 h0) h
    simp only
    rw [if_neg (by omega)]
    exact ⟨_, rfl⟩

example : longAsDouble 1 = .ok ⟨0x3FF0000000000000⟩ := rfl
example : longAsDouble (-3) = .ok ⟨0xC008000000000000⟩ := rfl
-- ties: `2 ^ 53 + 1` goes to the even `2 ^ 53`, and `2 ^ 53 + 3` to `2 ^ 53 + 4`
example : longAsDouble (2 ^ 53 + 1) = .ok ⟨0x4340000000000000⟩ := rfl
example : longAsDouble (2 ^ 53 + 3) = .ok ⟨0x4340000000000002⟩ := rfl
-- a carry into the exponent: `2 ^ 54 - 1` rounds up to `2 ^ 54`
example : longAsDouble (2 ^ 54 - 1) = .ok ⟨0x4350000000000000⟩ := rfl

/-- From the limit on, `float(n)` raises `OverflowError`. -/
theorem longAsDouble_overflow {n : Int} (h : floatLimit ≤ n.natAbs) :
    longAsDouble n = .error .overflowError := by
  have h0 : n.natAbs ≠ 0 := by unfold floatLimit at h; omega
  obtain ⟨-, hi⟩ := bitLength_spec h0
  have hL : 1024 ≤ bitLength n.natAbs := by
    have := (Nat.pow_lt_pow_iff_right (by norm_num : 1 < 2)).1
      (Nat.lt_of_lt_of_le two_pow_lt_floatLimit (Nat.le_of_lt (Nat.lt_of_le_of_lt h hi)))
    omega
  obtain ⟨s, hs⟩ : ∃ s, bitLength n.natAbs = s + 54 := ⟨bitLength n.natAbs - 54, by omega⟩
  obtain ⟨hq, he⟩ := roundSignificand_of_large hs
  have htop : 1025 ≤ bitLength (roundSignificand n.natAbs).1 + (roundSignificand n.natAbs).2 := by
    rw [hq, he]
    split
    · omega
    · next hc =>
      -- without a carry the top binade would hold `n`, which is past the limit
      have : s ≠ 970 := fun e => by
        subst e
        exact hc (roundHalfEven_carry h hs)
      omega
  unfold longAsDouble
  rw [if_neg (Int.natAbs_ne_zero.1 h0)]
  simp only
  rw [if_pos (by omega)]

end ContextVisualizer
