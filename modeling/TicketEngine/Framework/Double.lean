import Mathlib.Algebra.Order.Round
import Mathlib.Data.Rat.Floor

namespace TicketEngine

/-- A JavaScript number; NaN and the infinities are not told apart. -/
inductive JsNumber
  | notFinite
  | finite (value : ℚ)
  deriving DecidableEq

def roundHalfEven (q : ℚ) : Int :=
  let rest := q - q.floor
  if rest < 1 / 2 then q.floor
  else if 1 / 2 < rest then q.floor + 1
  else if q.floor % 2 = 0 then q.floor else q.floor + 1

/-- The largest power of two that a positive number reaches, as its exponent. -/
def binaryExponent (q : ℚ) : Int :=
  let exponent : Int := (Nat.log2 q.num.natAbs : Int) - Nat.log2 q.den
  if (2 : ℚ) ^ exponent ≤ q then exponent else exponent - 1

/-- The nearest double; one that is too large is infinite. -/
def toDouble (q : ℚ) : JsNumber :=
  if q = 0 then .finite 0
  else
    let unit : ℚ := 2 ^ max (binaryExponent |q| - 52) (-1074)
    let value := roundHalfEven (q / unit) * unit
    if |value| < 2 ^ 1024 then .finite value else .notFinite

theorem roundHalfEven_intCast (n : Int) : roundHalfEven n = n := by
  unfold roundHalfEven
  simp [Rat.floor_intCast]

/-- An odd number is the double of no other whole number: up to `2 ^ 53` a whole number is its own
double, and beyond that doubles are even. -/
theorem toDouble_odd {n v : Int} (hv : v % 2 = 1) (h : toDouble n = .finite v) : n = v := by
  unfold toDouble at h
  split_ifs at h with hzero
  · have hv0 : (v : ℚ) = 0 := (JsNumber.finite.inj h).symm
    have : v = 0 := by exact_mod_cast hv0
    omega
  · simp only at h
    split_ifs at h with hfinite
    have hvalue := JsNumber.finite.inj h
    generalize max (binaryExponent |(n : ℚ)| - 52) (-1074) = exponent at hvalue
    rcases le_or_gt exponent 0 with hle | hlt
    · obtain ⟨k, rfl⟩ := Int.exists_eq_neg_ofNat hle
      have hscaled : (n : ℚ) / 2 ^ (-(k : Int)) = ((n * 2 ^ k : Int) : ℚ) := by
        rw [zpow_neg, div_inv_eq_mul, zpow_natCast]
        push_cast
        rfl
      rw [hscaled, roundHalfEven_intCast, zpow_neg, zpow_natCast] at hvalue
      push_cast at hvalue
      rw [mul_inv_cancel_right₀ (by positivity)] at hvalue
      exact_mod_cast hvalue
    · obtain ⟨k, rfl⟩ := Int.eq_succ_of_zero_lt hlt
      generalize roundHalfEven _ = rounded at hvalue
      have heven : rounded * 2 ^ (k + 1) = v := by exact_mod_cast hvalue
      rw [pow_succ, ← mul_assoc] at heven
      omega

end TicketEngine
