import ContextVisualizer.Python.Builtins

/-!
# What Python's `>` orders

Between numbers `>` compares exact values: ints, bools and floats are placed in the extended
rationals, with the infinities at the ends, and a NaN is above nothing and below nothing
(`FloatValue.gt_eq`). Between strings it compares code points from the left: the lexicographic
order on `List Char` (`strLt_iff`), a linear order.

A value's `Rank` is what it is compared as. Two ranked values of one kind never make `>` raise,
and `>` follows their ranks (`pyGt_of_rank`), which form a strict weak order
(`Rank.lt_trans`, `Rank.lt_or_lt`).
-/

namespace ContextVisualizer

/-- The extended rationals, where the exact values of ints, bools and floats lie. -/
abbrev Extended := WithBot (WithTop ℚ)

namespace FloatValue

/-- `m * 2 ^ e` in the rationals. -/
def dyadic (m e : Int) : ℚ := m * 2 ^ e

/-- The exact value of a number; a NaN has none. -/
def exact : FloatValue → Option Extended
  | .finite m e => some ((dyadic m e : WithTop ℚ) : Extended)
  | .inf false => some ((⊤ : WithTop ℚ) : Extended)
  | .inf true => some ⊥
  | .nan => none

lemma dyadicLt_iff (a e b f : Int) : dyadicLt a e b f = decide (dyadic a e < dyadic b f) := by
  have h2 : (2 : ℚ) ≠ 0 := two_ne_zero
  unfold dyadicLt dyadic
  rw [Bool.eq_iff_iff, decide_eq_true_iff]
  split
  · next h =>
    obtain ⟨n, rfl⟩ : ∃ n : ℕ, f = e + n := ⟨(f - e).toNat, by omega⟩
    rw [show (e + n - e).toNat = n by omega, zpow_add₀ h2, zpow_natCast,
      show (b : ℚ) * (2 ^ e * 2 ^ n) = (b * 2 ^ n) * 2 ^ e by ring,
      mul_lt_mul_right (zpow_pos two_pos e), decide_eq_true_iff]
    norm_cast
  · next h =>
    obtain ⟨n, rfl⟩ : ∃ n : ℕ, e = f + n := ⟨(e - f).toNat, by omega⟩
    rw [show (f + n - f).toNat = n by omega, zpow_add₀ h2, zpow_natCast,
      show (a : ℚ) * (2 ^ f * 2 ^ n) = (a * 2 ^ n) * 2 ^ f by ring,
      mul_lt_mul_right (zpow_pos two_pos f), decide_eq_true_iff]
    norm_cast

/-- Python's `>` between two numbers is the order of their exact values, and false whenever
either is a NaN. -/
theorem gt_eq (u v : FloatValue) : u.gt v = match u.exact, v.exact with
    | some p, some q => decide (q < p)
    | _, _ => false := by
  rcases u with ⟨a, e⟩ | ⟨_ | _⟩ | _ <;> rcases v with ⟨b, f⟩ | ⟨_ | _⟩ | _ <;>
    simp [gt, exact, dyadicLt_iff]
  -- a finite value is below `+inf`
  exact WithBot.coe_lt_coe.2 (WithTop.coe_lt_top _)

@[simp] lemma gt_nan (u : FloatValue) : u.gt .nan = false := by cases u <;> rfl

end FloatValue

/-! ### Strings -/

/-- Python's order on strings is the lexicographic order of their code points, which Mathlib
orders linearly. -/
theorem strLt_iff : ∀ {s t : List Char}, strLt s t = true ↔ s < t
  | [], [] => by simp [strLt]
  | [], _ :: _ => by simpa [strLt] using List.Lex.nil
  | _ :: _, [] => by simp [strLt]
  | a :: s, b :: t => by
    by_cases hab : a = b
    · subst hab
      rw [strLt, if_pos rfl, strLt_iff]
      exact (@List.Lex.cons_iff Char (· < ·) _ a s t).symm
    · simp only [strLt, if_neg hab, decide_eq_true_eq]
      constructor
      · exact fun h => List.Lex.rel h
      · intro h
        cases h with
        | cons => exact absurd rfl hab
        | rel h => exact h

lemma strLt_irrefl (s : List Char) : strLt s s = false := by
  rw [← Bool.not_eq_true, strLt_iff]
  exact lt_irrefl s

lemma strLt_trans {s t u : List Char} (h₁ : strLt s t) (h₂ : strLt t u) : strLt s u :=
  strLt_iff.2 (lt_trans (strLt_iff.1 h₁) (strLt_iff.1 h₂))

lemma strLt_trichotomy (s t : List Char) : strLt s t ∨ s = t ∨ strLt t s := by
  simpa only [strLt_iff] using lt_trichotomy s t

/-! ### Values `>` orders -/

/-- What a value is compared as: a number by its exact value, a string by its code points. -/
inductive Rank where
  | num (p : Extended)
  | text (s : List Char)

namespace Rank

/-- Python's `<` between two ranks; across kinds it raises, and this says `false`. -/
def lt : Rank → Rank → Bool
  | .num p, .num q => decide (p < q)
  | .text s, .text t => strLt s t
  | _, _ => false

/-- Both are numbers or both are strings. -/
def sameKind : Rank → Rank → Bool
  | .num _, .num _ | .text _, .text _ => true
  | _, _ => false

lemma lt_irrefl : ∀ x : Rank, x.lt x = false
  | .num p => by simp [lt]
  | .text s => strLt_irrefl s

lemma lt_trans {x y z : Rank} (h₁ : x.lt y) (h₂ : y.lt z) : x.lt z := by
  cases x <;> cases y <;> cases z <;>
    simp only [lt, decide_eq_true_eq, Bool.false_eq_true] at h₁ h₂ ⊢
  · exact h₁.trans h₂
  · exact strLt_trans h₁ h₂

/-- Ranks of one kind are a strict weak order: what is below `z` is below `y` or `y` is below
`z`. -/
lemma lt_or_lt {x y z : Rank} (hxy : x.sameKind y) (h : x.lt z) : x.lt y ∨ y.lt z := by
  cases x <;> cases y <;> cases z <;>
    simp only [lt, sameKind, decide_eq_true_eq, Bool.false_eq_true] at hxy h ⊢
  · exact h.lt_or_lt _
  · next s t u =>
    rcases strLt_trichotomy s t with hst | rfl | hts
    · exact .inl hst
    · exact .inr h
    · exact .inr (strLt_trans hts h)

end Rank

/-- The rank of a value: a bool, an int or a non-NaN float by its exact value, a string by its
code points. A NaN, `None`, a list and a dict have none. -/
def Json.rank : Json → Option Rank
  | .str s => some (.text s.data)
  | v => (v.numValue?.bind FloatValue.exact).map .num

lemma Json.rank_eq_num {v : Json} {p : Extended} (h : v.rank = some (.num p)) :
    ∃ u, v.numValue? = some u ∧ u.exact = some p := by
  cases v <;> simp_all [rank, numValue?]

lemma Json.rank_eq_text {v : Json} {s : List Char} (h : v.rank = some (.text s)) :
    ∃ t, v = .str t ∧ t.data = s := by
  cases v <;> simp_all [rank, numValue?]

/-- Between two ranked values of one kind, `>` does not raise and follows the ranks. -/
theorem pyGt_of_rank {a b : Json} {x y : Rank} (ha : a.rank = some x) (hb : b.rank = some y)
    (hk : x.sameKind y) : pyGt b a = .ok (x.lt y) := by
  cases x <;> cases y <;> simp only [Rank.sameKind, Bool.false_eq_true] at hk
  · obtain ⟨u, hu, hp⟩ := Json.rank_eq_num ha
    obtain ⟨v, hv, hq⟩ := Json.rank_eq_num hb
    rw [pyGt_of_numValue hv hu, FloatValue.gt_eq, hp, hq]
    rfl
  · obtain ⟨s, rfl, rfl⟩ := Json.rank_eq_text ha
    obtain ⟨t, rfl, rfl⟩ := Json.rank_eq_text hb
    rfl

/-- Nothing is above a NaN: whenever `a > nan` answers, it answers `False`. -/
lemma pyGt_nan_right {a b : Json} {c : Bool} (hb : b.numValue? = some .nan)
    (h : pyGt a b = .ok c) : c = false := by
  cases a <;> cases b <;> simp_all [pyGt, Json.numValue?]

end ContextVisualizer
