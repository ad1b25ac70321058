import Mathlib
import TransactionRules.Store.Cell

/-!
# Whole numbers among floats

A column of reals keeps a float that is a whole number as that number, and gives the float nearest
to it back. Nothing is lost: the float nearest to a whole number that a float is, is that float,
except that zero loses its sign, and both zeros stand for the same quantity.
-/

namespace TransactionRules

namespace Exact

/-! ## The fields of a float -/

/-- The bits of a float are its fields, side by side. -/
lemma bits_eq_fields (x : Float) : x.toBits.toNat =
    (if (fields x).1 then 2 ^ 63 else 0) + (fields x).2.1 * 2 ^ 52 + (fields x).2.2 := by
  have bound : x.toBits.toNat < 2 ^ 64 := x.toBits.toNat_lt
  simp only [fields, Nat.shiftRight_eq_div_pow, Nat.one_shiftLeft, beq_iff_eq]
  split <;> omega

lemma exponent_lt (x : Float) : (fields x).2.1 < 2048 := by
  simp only [fields]
  omega

lemma fraction_lt (x : Float) : (fields x).2.2 < 2 ^ 52 := by
  simp only [fields, Nat.one_shiftLeft]
  omega

/-- A number with a sign. -/
def signed (negative : Bool) (n : Nat) : Int := if negative then -n else n

@[simp] lemma natAbs_signed (negative : Bool) (n : Nat) : (signed negative n).natAbs = n := by
  cases negative <;> simp [signed]

lemma signed_neg_iff {negative : Bool} {n : Nat} (h : 0 < n) :
    signed negative n < 0 ↔ negative = true := by
  cases negative <;> simp [signed, h]

/-- What a finite float stands for: below the least normal one all exponents are the same, and from
there on the mantissa has 53 binary digits, the first of which is not among the bits. -/
lemma ofFloat_eq_finite {x : Float} {m e : Int} (h : ofFloat x = .finite m e) :
    (m = signed (fields x).1 (fields x).2.2 ∧ e = -1074 ∧ (fields x).2.1 = 0) ∨
    (m = signed (fields x).1 (2 ^ 52 + (fields x).2.2) ∧ e = (fields x).2.1 - 1075 ∧
      0 < (fields x).2.1 ∧ (fields x).2.1 < 2047) := by
  have bound := exponent_lt x
  generalize hx : fields x = f at bound
  obtain ⟨negative, exponent, fraction⟩ := f
  simp only [ofFloat, hx] at h
  split at h
  · cases h
  · cases h
  · next heq =>
    obtain ⟨rfl, rfl, rfl⟩ := heq
    obtain ⟨rfl, rfl⟩ := Exact.finite.inj h
    exact .inl ⟨by simp [signed], rfl, rfl⟩
  · next _ _ notNan notSmall heq =>
    obtain ⟨rfl, rfl, rfl⟩ := heq
    obtain ⟨rfl, rfl⟩ := Exact.finite.inj h
    exact .inr ⟨by simp [signed, Nat.one_shiftLeft], rfl, Nat.pos_of_ne_zero notSmall,
      Nat.lt_of_le_of_ne (Nat.le_of_lt_succ bound) notNan⟩

/-! ## Whole numbers -/

/-- Whether `n` is `m * 2 ^ e`. -/
def IsScaled (n m e : Int) : Prop := n * 2 ^ (-e).toNat = m * 2 ^ e.toNat

lemma isScaled_of_whole? {m e n : Int} (h : whole? m e = some n) : IsScaled n m e := by
  simp only [whole?, Int.shiftLeft_eq, one_mul] at h
  split at h
  · next divides =>
    obtain rfl := Option.some.inj h
    simp only [truncated, Int.shiftLeft_eq, one_mul]
    exact Int.tdiv_mul_cancel (Int.dvd_of_emod_eq_zero divides)
  · cases h

lemma log2_mul_two_pow {n : Nat} (h : n ≠ 0) (k : Nat) : (n * 2 ^ k).log2 = n.log2 + k := by
  induction k with
  | zero => simp
  | succ k ih =>
    rw [pow_succ, ← mul_assoc, mul_comm,
      Nat.log2_two_mul (Nat.mul_ne_zero h (Nat.two_pow_pos k).ne'), ih]
    rfl

namespace IsScaled

lemma natCast_iff {n m : Nat} {e : Int} :
    IsScaled n m e ↔ n * 2 ^ (-e).toNat = m * 2 ^ e.toNat := by
  unfold IsScaled
  exact_mod_cast Iff.rfl

lemma natAbs {n m e : Int} (h : IsScaled n m e) : IsScaled n.natAbs m.natAbs e := by
  have := congrArg Int.natAbs h
  simp only [Int.natAbs_mul, Int.natAbs_pow] at this
  exact natCast_iff.mpr this

lemma neg_iff {n m e : Int} (h : IsScaled n m e) : n < 0 ↔ m < 0 := by
  have signs := congrArg Int.sign h
  rw [Int.sign_mul, Int.sign_mul, Int.sign_eq_one_of_pos (Int.pow_pos (by decide)),
    Int.sign_eq_one_of_pos (Int.pow_pos (by decide)), mul_one, mul_one] at signs
  rw [← Int.sign_eq_neg_one_iff_neg, ← Int.sign_eq_neg_one_iff_neg, signs]

lemma pred {n m e : Int} (h : IsScaled n m e) : IsScaled n (2 * m) (e - 1) := by
  unfold IsScaled at *
  obtain pos | neg : 1 ≤ e ∨ e ≤ 0 := by omega
  · rw [show (-e).toNat = 0 by omega, show e.toNat = (e - 1).toNat + 1 by omega] at h
    rw [show (-(e - 1)).toNat = 0 by omega, h]
    ring
  · rw [show e.toNat = 0 by omega] at h
    rw [show (-(e - 1)).toNat = (-e).toNat + 1 by omega, show (e - 1).toNat = 0 by omega,
      pow_succ, ← mul_assoc, h]
    ring

/-- The first digit of a mantissa of 53 binary digits is the first digit of the number. -/
lemma log2_eq {n m : Nat} {e : Int} (h : IsScaled n m e) (low : 2 ^ 52 ≤ m) (high : m < 2 ^ 53) :
    (n.log2 : Int) = 52 + e := by
  have log : m.log2 = 52 := (Nat.log2_eq_iff (by omega)).mpr ⟨low, high⟩
  rw [natCast_iff] at h
  obtain pos | neg : 0 ≤ e ∨ e ≤ 0 := by omega
  · rw [show (-e).toNat = 0 by omega, pow_zero, mul_one] at h
    rw [h, log2_mul_two_pow (by omega)]
    omega
  · rw [show e.toNat = 0 by omega, pow_zero, mul_one] at h
    have : n ≠ 0 := by rintro rfl; omega
    rw [← h, log2_mul_two_pow this] at log
    omega

/-- No whole number but zero is below the least normal float. -/
lemma eq_zero {n m : Nat} {e : Int} (h : IsScaled n m e) (small : m < 2 ^ 52) (he : e ≤ -52) :
    n = 0 ∧ m = 0 := by
  rw [natCast_iff, show e.toNat = 0 by omega, pow_zero, mul_one] at h
  have large : 2 ^ 52 ≤ 2 ^ (-e).toNat := Nat.pow_le_pow_right (by decide) (by omega)
  obtain rfl | pos := Nat.eq_zero_or_pos n
  · simpa [eq_comm] using h
  · have := Nat.le_mul_of_pos_left (2 ^ (-e).toNat) pos
    omega

end IsScaled

lemma roundHalfEven_mul (q : Nat) {d : Nat} (h : 0 < d) : roundHalfEven (q * d) d = q := by
  simp [roundHalfEven, Nat.mul_div_cancel _ h, h]

/-- Nothing is rounded where a mantissa is whole. -/
lemma roundHalfEven_of_isScaled {n m : Nat} {e : Int} (h : IsScaled n m e) :
    roundHalfEven (n <<< (-e).toNat) (1 <<< e.toNat) = m := by
  rw [Nat.shiftLeft_eq, Nat.one_shiftLeft, IsScaled.natCast_iff.mp h,
    roundHalfEven_mul m (Nat.two_pow_pos _)]

/-- The bits of the float nearest to a whole number that needs no more than 53 binary digits. -/
lemma nearestFloat_of_isScaled {negative : Bool} {n m : Nat} {e : Int} (h : IsScaled n m e)
    (low : 2 ^ 52 ≤ m) (high : m < 2 ^ 53) (greatest : e < 972) :
    nearestFloat negative n 1 =
      Float.ofBits ((if negative then 2 ^ 63 else 0) +
        ((e + 1075).toNat * 2 ^ 52 + (m - 2 ^ 52))).toUInt64 := by
  have log := h.log2_eq low high
  have positive : n ≠ 0 := by
    rintro rfl
    have : m = 0 := by simpa [IsScaled] using h
    omega
  have first : max (-1074) ((bitLength n : Int) - bitLength 1 - 53) = e - 1 := by
    rw [bitLength, if_neg positive, show bitLength 1 = 1 by decide]
    push_cast
    omega
  have twice : roundHalfEven (n <<< (-(e - 1)).toNat) (1 <<< (e - 1).toNat) = 2 * m :=
    roundHalfEven_of_isScaled (mod_cast h.pred)
  have once := roundHalfEven_of_isScaled h
  simp only [nearestFloat, if_neg positive, first, twice]
  obtain carry | noCarry : m = 2 ^ 52 ∨ 2 ^ 52 < m := by omega
  · -- the mantissa of one digit more carries into the exponent
    have same : ¬ 1 <<< 53 < 2 * m := by omega
    have normal : ¬ 2 * m < 1 <<< 52 := by omega
    simp only [if_neg same]
    simp only [twice, if_neg normal]
    refine congrArg Float.ofBits (congrArg Nat.toUInt64 ?_)
    simp only [Nat.shiftLeft_eq]
    split <;> omega
  · have next : 1 <<< 53 < 2 * m := by omega
    have normal : ¬ m < 1 <<< 52 := by omega
    simp only [if_pos next, sub_add_cancel]
    simp only [once, if_neg normal]
    refine congrArg Float.ofBits (congrArg Nat.toUInt64 ?_)
    simp only [Nat.shiftLeft_eq]
    split <;> omega

/-- The float nearest to a whole number that a float is, stands for that number. -/
theorem ofFloat_nearestFloat {x : Float} {m e n : Int} (hx : ofFloat x = .finite m e)
    (hn : whole? m e = some n) :
    ofFloat (nearestFloat (n < 0) n.natAbs 1) = ofFloat x := by
  have scaled := isScaled_of_whole? hn
  have size := scaled.natAbs
  obtain ⟨rfl, rfl, -⟩ | ⟨rfl, rfl, -, lt⟩ := ofFloat_eq_finite hx
  · rw [natAbs_signed] at size
    obtain ⟨zero, none⟩ := size.eq_zero (fraction_lt x) (by decide)
    rw [hx, none, Int.natAbs_eq_zero.mp zero]
    cases (fields x).1 <;> rfl
  · rw [natAbs_signed] at size
    have negative : (fields x).1 = decide (n < 0) := by
      rw [Bool.eq_iff_iff, decide_eq_true_iff, scaled.neg_iff, signed_neg_iff (by omega)]
    have bits := bits_eq_fields x
    have small := fraction_lt x
    rw [nearestFloat_of_isScaled size (by omega) (by omega) (by omega), ← negative,
      show ((fields x).2.1 - 1075 + 1075 : Int).toNat = (fields x).2.1 by omega,
      Nat.add_sub_cancel_left, ← Nat.add_assoc, ← bits]
    simp

end Exact

/-- A column of reals keeps what a float stands for. -/
theorem Cell.asReal_real (x : Float) :
    ∃ y, (Cell.real x).asReal = .real y ∧ Exact.ofFloat y = Exact.ofFloat x := by
  have kept : (Cell.real x).asNumber = .real x →
      ∃ y, (Cell.real x).asReal = .real y ∧ Exact.ofFloat y = Exact.ofFloat x :=
    fun h => ⟨x, by simp [asReal, h], rfl⟩
  rw [asNumber, wholeOrReal] at kept
  split at kept
  · next m e finite =>
    split at kept
    · next n whole =>
      split at kept
      · next word =>
        refine ⟨_, ?_, Exact.ofFloat_nearestFloat finite whole⟩
        simp [asReal, asNumber, wholeOrReal, finite, whole, word]
      · exact kept rfl
    · exact kept rfl
  · exact kept rfl

end TransactionRules
