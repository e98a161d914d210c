import AlicatBasis2.FloatingPoint.Rounding

/-! # Values of a binary format and their arithmetic

A value is a number of the format below its bound, an infinity, or not a number; zero has a sign like the
others. An operation computes its exact result and rounds it; what reaches the bound when rounded is an
infinity. On numbers whose result stays in range an operation is exact arithmetic followed by rounding. -/

namespace FloatingPoint

/-- A number of the format with `|x| < 2 ^ top`, of the given sign; zero has either. -/
structure Format.Holds (fmt : Format) (negative : Bool) (x : ℚ) : Prop where
  representable : fmt.Representable x
  abs_lt : |x| < 2 ^ fmt.top
  sign : if negative then x ≤ 0 else 0 ≤ x

/-- Results that stay below the bound when rounded: `|rnd q| < 2 ^ top`. -/
def Format.InRange (fmt : Format) (q : ℚ) : Prop := |fmt.rnd q| < 2 ^ fmt.top

instance (fmt : Format) (q : ℚ) : Decidable (fmt.InRange q) := inferInstanceAs (Decidable (_ < _))

/-- Numbers up to half the bound stay in range: `|q| ≤ 2 ^ (top - 1)` gives `|rnd q| < 2 ^ top`. -/
theorem Format.inRange_of_abs_le (fmt : Format) {q : ℚ} (h : |q| ≤ 2 ^ (fmt.top - 1)) : fmt.InRange q := by
  have hprecision := fmt.precision_pos
  have hleast := fmt.least_add_le
  have hone : (1 : ℤ) < 2 ^ fmt.precision := one_lt_pow₀ (by norm_num) hprecision.ne'
  have hhalf : fmt.Representable (2 ^ (fmt.top - 1)) :=
    ⟨1, fmt.top - 1, by simpa using hone, by omega, by simp⟩
  have hhalf' : fmt.Representable (-2 ^ (fmt.top - 1)) :=
    ⟨-1, fmt.top - 1, by simpa using hone, by omega, by simp⟩
  obtain ⟨hlow, hhigh⟩ := abs_le.mp h
  have hlt : (2 : ℚ) ^ (fmt.top - 1) < 2 ^ fmt.top := zpow_lt_zpow_right₀ (by norm_num) (by omega)
  exact (abs_le.mpr ⟨fmt.le_rnd hhalf' hlow, fmt.rnd_le hhalf hhigh⟩).trans_lt hlt

/-- A value of a binary format: not a number, `±∞`, or a signed number of the format. -/
inductive Binary (fmt : Format)
  | nan
  | infinity (negative : Bool)
  | finite (negative : Bool) (x : ℚ) (h : fmt.Holds negative x)

namespace Binary

variable {fmt : Format}

/-- The number a value stands for, if it does. -/
def toRat : Binary fmt → Option ℚ
  | nan | infinity _ => none
  | finite _ x _ => some x

/-- `+0` or `-0`. -/
def zero (negative : Bool) : Binary fmt :=
  finite negative 0 ⟨⟨0, fmt.least, by simp, le_rfl, by simp⟩, by rw [abs_zero]; positivity, by simp⟩

/-- An exact result `q` as a value: `rnd q` in range and `±∞` beyond. Its sign stays, and an exact zero has the
sign given. -/
def ofRat (zeroSign : Bool) (q : ℚ) : Binary fmt :=
  if h : fmt.InRange q then
    finite (if q = 0 then zeroSign else decide (q < 0)) (fmt.rnd q)
      ⟨fmt.representable_rnd q, h, by
        rcases lt_trichotomy q 0 with hq | rfl | hq
        · simpa [hq, hq.ne] using fmt.rnd_mono hq.le
        · simp
        · simpa [hq.ne', not_lt.mpr hq.le] using fmt.rnd_mono hq.le⟩
  else infinity (decide (q < 0))

/-- `a * b`. An infinity times zero is not a number. -/
def mul : Binary fmt → Binary fmt → Binary fmt
  | nan, _ | _, nan => nan
  | infinity s, infinity t => infinity (s ^^ t)
  | infinity s, finite t y _ => if y = 0 then nan else infinity (s ^^ t)
  | finite s x _, infinity t => if x = 0 then nan else infinity (s ^^ t)
  | finite s x _, finite t y _ => ofRat (s ^^ t) (x * y)

/-- `a / b`. A number divided by zero is an infinity, and by an infinity is zero; zero by zero and an infinity
by an infinity are not numbers. -/
def div : Binary fmt → Binary fmt → Binary fmt
  | nan, _ | _, nan => nan
  | infinity _, infinity _ => nan
  | infinity s, finite t _ _ => infinity (s ^^ t)
  | finite s _ _, infinity t => zero (s ^^ t)
  | finite s x _, finite t y _ =>
    if y = 0 then if x = 0 then nan else infinity (s ^^ t) else ofRat (s ^^ t) (x / y)

/-- `a < b`, which nothing is that is compared with what is not a number. -/
def lt : Binary fmt → Binary fmt → Bool
  | nan, _ | _, nan => false
  | infinity s, infinity t => s && !t
  | infinity s, finite _ _ _ => s
  | finite _ _ _, infinity t => !t
  | finite _ x _, finite _ y _ => decide (x < y)

/-- `nan` stands for no number. -/
@[simp] theorem toRat_nan : (nan : Binary fmt).toRat = none := rfl

/-- `±∞` stands for no number. -/
@[simp] theorem toRat_infinity (s : Bool) : (infinity s : Binary fmt).toRat = none := rfl

/-- `finite s x` stands for `x`. -/
@[simp] theorem toRat_finite (s : Bool) (x : ℚ) (h : fmt.Holds s x) : (finite s x h).toRat = some x := rfl

/-- `±0` stands for `0`. -/
@[simp] theorem toRat_zero (s : Bool) : (zero s : Binary fmt).toRat = some 0 := rfl

/-- What stands for `x` is `finite s x` for some sign `s`. -/
theorem toRat_eq_some {a : Binary fmt} {x : ℚ} (h : a.toRat = some x) : ∃ s hx, a = finite s x hx := by
  cases a with
  | nan | infinity => cases h
  | finite s y hy =>
    cases h
    exact ⟨s, hy, rfl⟩

/-- In range a result is rounded: `ofRat s q` stands for `rnd q`. -/
theorem toRat_ofRat {q : ℚ} (hq : fmt.InRange q) (s : Bool) :
    (ofRat s q : Binary fmt).toRat = some (fmt.rnd q) := by
  unfold ofRat
  rw [dif_pos hq, toRat_finite]

/-- Out of range a result is an infinity: `ofRat s q = ±∞`, with the sign of `q`. -/
theorem ofRat_of_not_inRange {q : ℚ} (hq : ¬ fmt.InRange q) (s : Bool) :
    (ofRat s q : Binary fmt) = infinity (decide (q < 0)) := by
  unfold ofRat
  rw [dif_neg hq]

/-- What is not a number is not less than anything: `nan < a` is false. -/
@[simp] theorem nan_lt (a : Binary fmt) : (nan : Binary fmt).lt a = false := rfl

/-- Nor is anything less than it: `a < nan` is false. -/
@[simp] theorem lt_nan (a : Binary fmt) : a.lt nan = false := by
  cases a <;> rfl

section Numbers

variable {a b : Binary fmt} {x y : ℚ}

/-- A product in range is the exact one, rounded: `a * b` stands for `rnd (x * y)`. -/
theorem toRat_mul (ha : a.toRat = some x) (hb : b.toRat = some y) (h : fmt.InRange (x * y)) :
    (a.mul b).toRat = some (fmt.rnd (x * y)) := by
  obtain ⟨s, hx, rfl⟩ := toRat_eq_some ha
  obtain ⟨t, hy, rfl⟩ := toRat_eq_some hb
  exact toRat_ofRat h _

/-- A quotient in range is the exact one, rounded: `a / b` stands for `rnd (x / y)`, for `y ≠ 0`. -/
theorem toRat_div (ha : a.toRat = some x) (hb : b.toRat = some y) (hy : y ≠ 0) (h : fmt.InRange (x / y)) :
    (a.div b).toRat = some (fmt.rnd (x / y)) := by
  obtain ⟨s, hx, rfl⟩ := toRat_eq_some ha
  obtain ⟨t, hy', rfl⟩ := toRat_eq_some hb
  simpa [div, hy] using toRat_ofRat h _

/-- Numbers are compared as numbers: `a < b` is `x < y`. -/
theorem lt_eq (ha : a.toRat = some x) (hb : b.toRat = some y) : a.lt b = decide (x < y) := by
  obtain ⟨s, hx, rfl⟩ := toRat_eq_some ha
  obtain ⟨t, hy, rfl⟩ := toRat_eq_some hb
  rfl

end Numbers

end Binary

end FloatingPoint
