import Mathlib.Data.Int.Log
import Mathlib.Data.Rat.Floor
import Mathlib.Tactic.Linarith
import Mathlib.Tactic.Positivity

/-!
# Floating-point numbers

A float is a finite number, an infinity or NaN, and a format says to which float the exact result of
an operation is rounded. Of a format only two things are known: its rounding is monotone and keeps
small integers. They decide all signs, in `binary64` as in exact arithmetic. The sign of a zero is
left out, since no comparison, quotient or logarithm here depends on it.

## Key results

- `roundHalfEven_le`, `le_roundHalfEven`: rounding to an integer does not pass an integer
- `FloatFormat.add_notNeg`, `FloatFormat.mul_notNeg`, `FloatFormat.div_notNeg`: the sign rules
- `FloatFormat.one_add_ne_zero`: one more than a number that is not negative is not zero
- `FloatFormat.total_notNeg`, `FloatFormat.total_ne_zero`: sums from left to right
- `FloatFormat.binary64`, `FloatFormat.exact`: two formats
- `FloatFormat.exact_total`: in exact arithmetic a sum of numbers is their sum
-/

/-- `round(q)`: the nearest integer, the even one of two. -/
def roundHalfEven (q : Rat) : Int :=
  if q - q.floor < 1 / 2 then q.floor
  else if 1 / 2 < q - q.floor then q.floor + 1
  else if q.floor % 2 = 0 then q.floor
  else q.floor + 1

/-- Rounding does not pass an integer. -/
theorem roundHalfEven_le {q : Rat} {k : Int} (h : q ≤ k) : roundHalfEven q ≤ k := by
  have hfloor : q.floor ≤ k := Int.cast_le (R := Rat) |>.mp ((Rat.floor_le q).trans h)
  rcases hfloor.lt_or_eq with hlt | heq
  · unfold roundHalfEven
    split_ifs <;> omega
  · -- the integer itself
    have hzero : q - q.floor < 1 / 2 := by
      rw [heq]
      linarith
    rw [roundHalfEven, if_pos hzero, heq]

/-- From below either. -/
theorem le_roundHalfEven {q : Rat} {k : Int} (h : (k : Rat) ≤ q) : k ≤ roundHalfEven q := by
  have hfloor : k ≤ q.floor := Rat.le_floor_iff.mpr h
  unfold roundHalfEven
  split_ifs <;> omega

/-- An integer is not changed. -/
theorem roundHalfEven_intCast (k : Int) : roundHalfEven k = k :=
  le_antisymm (roundHalfEven_le le_rfl) (le_roundHalfEven le_rfl)

/-- Rounding keeps the order. -/
theorem roundHalfEven_mono {p q : Rat} (h : p ≤ q) : roundHalfEven p ≤ roundHalfEven q := by
  have hfloor : p.floor ≤ q.floor := Rat.le_floor_iff.mpr ((Rat.floor_le p).trans h)
  rcases hfloor.lt_or_eq with hlt | heq
  -- another floor: the one rounds to at most the other's floor
  · have hup : roundHalfEven p ≤ p.floor + 1 := by
      unfold roundHalfEven
      split_ifs <;> omega
    have hdown : q.floor ≤ roundHalfEven q := le_roundHalfEven (Rat.floor_le q)
    omega
  -- the same floor: the greater one is farther from it
  · unfold roundHalfEven
    rw [heq]
    split_ifs <;> first | omega | (exfalso; linarith)

/-- A half and what is smaller, the even integer of two. -/
theorem roundHalfEven_eq_zero {q : Rat} (hq : 0 ≤ q) (h : q ≤ 1 / 2) : roundHalfEven q = 0 := by
  have hfloor : q.floor = 0 := by
    have hge : 0 ≤ q.floor := Rat.le_floor_iff.mpr (by simpa using hq)
    have hle : q.floor ≤ 0 := by
      by_contra hpos
      have hone : ((1 : Int) : Rat) ≤ q := Rat.le_floor_iff.mp (by omega)
      push_cast at hone
      linarith
    omega
  have hnot : ¬ 1 / 2 < q := not_lt.mpr h
  rw [roundHalfEven, hfloor, Int.cast_zero, sub_zero, if_neg hnot]
  simp

/-- A Python float: a finite number or one of the three that JSON cannot write. -/
inductive PyFloat where
  | finite (q : Rat)
  | nan
  | posInf
  | negInf
deriving DecidableEq

namespace PyFloat

def neg : PyFloat → PyFloat
  | finite q => finite (-q)
  | nan => nan
  | posInf => negInf
  | negInf => posInf

/-- `abs(x)` -/
def abs : PyFloat → PyFloat
  | finite q => finite |q|
  | nan => nan
  | posInf => posInf
  | negInf => posInf

/-- The number, if `math.isfinite(x)`. -/
def finite? : PyFloat → Option Rat
  | finite q => some q
  | _ => none

/-- `x == 0` -/
def isZero : PyFloat → Bool
  | finite q => q = 0
  | _ => false

/-- `x < y`, false if one is NaN. -/
def lt : PyFloat → PyFloat → Bool
  | finite p, finite q => p < q
  | finite _, posInf => true
  | negInf, finite _ => true
  | negInf, posInf => true
  | _, _ => false

/-- `x <= y`, false if one is NaN. -/
def le : PyFloat → PyFloat → Bool
  | finite p, finite q => p ≤ q
  | finite _, posInf => true
  | negInf, finite _ => true
  | negInf, posInf => true
  | posInf, posInf => true
  | negInf, negInf => true
  | _, _ => false

/-- `max(x, y)`: the first, unless the second is greater. -/
def max (x y : PyFloat) : PyFloat := if x.lt y then y else x

/-- `min(x, y)`: the first, unless the second is less. -/
def min (x y : PyFloat) : PyFloat := if y.lt x then y else x

section Finite

variable (p q : Rat)

@[simp] theorem finite_lt : (finite p).lt (finite q) = decide (p < q) := rfl

@[simp] theorem finite_le : (finite p).le (finite q) = decide (p ≤ q) := rfl

@[simp] theorem finite_neg : (finite q).neg = finite (-q) := rfl

@[simp] theorem finite_abs : (finite q).abs = finite |q| := rfl

@[simp] theorem finite_isZero : (finite q).isZero = decide (q = 0) := rfl

/-- Of two numbers it is the greater one. -/
@[simp] theorem finite_max : (finite p).max (finite q) = finite (Max.max p q) := by
  unfold max
  rcases lt_or_ge p q with h | h
  · simp [h, h.le]
  · simp [h, not_lt.mpr h]

/-- The smaller one. -/
@[simp] theorem finite_min : (finite p).min (finite q) = finite (Min.min p q) := by
  unfold min
  rcases lt_or_ge q p with h | h
  · simp [h, h.le]
  · simp [h, not_lt.mpr h]

end Finite

/-- Not less than zero; NaN counts. -/
abbrev NotNeg (x : PyFloat) : Prop := x.lt (finite 0) = false

/-- Of a number it is what it says. -/
@[simp] theorem notNeg_finite {q : Rat} : (finite q).NotNeg ↔ 0 ≤ q := by
  simp [NotNeg, lt]

@[simp] theorem notNeg_nan : nan.NotNeg := rfl

@[simp] theorem notNeg_posInf : posInf.NotNeg := rfl

@[simp] theorem not_notNeg_negInf : ¬ negInf.NotNeg := by decide

/-- Three kinds of floats are not negative. -/
theorem NotNeg.cases {x : PyFloat} (h : x.NotNeg) :
    (∃ q, x = finite q ∧ 0 ≤ q) ∨ x = nan ∨ x = posInf := by
  cases x with
  | finite q => exact .inl ⟨q, rfl, notNeg_finite.mp h⟩
  | nan => exact .inr (.inl rfl)
  | posInf => exact .inr (.inr rfl)
  | negInf => exact absurd h not_notNeg_negInf

/-- What is not below a finite number. -/
theorem le_finite_cases {q : Rat} {x : PyFloat} (h : (finite q).le x = true) :
    x = posInf ∨ ∃ r, x = finite r ∧ q ≤ r := by
  cases x with
  | finite r => exact .inr ⟨r, rfl, by simpa [le] using h⟩
  | posInf => exact .inl rfl
  | nan => cases h
  | negInf => cases h

/-- What is cut off at zero is not negative, NaN included. -/
theorem max_zero_notNeg (x : PyFloat) : (x.max (finite 0)).NotNeg := by
  unfold max
  split
  · simp
  · rename_i h
    simpa using h

end PyFloat

open PyFloat

/-- How the exact result of an operation is rounded. -/
structure FloatFormat where
  round : Rat → PyFloat
  round_mono : ∀ p q, p ≤ q → (round p).le (round q) = true
  round_natCast : ∀ n : Nat, n ≤ 2 ^ 53 → round n = .finite n

namespace FloatFormat

variable (F : FloatFormat)

/-- A number of the format. -/
def IsFloat (x : PyFloat) : Prop := ∀ q, x = .finite q → F.round q = x

instance : (x : PyFloat) → Decidable (F.IsFloat x)
  | .finite q => decidable_of_iff (F.round q = .finite q)
      ⟨fun h q' hq => by cases hq; exact h, fun h => h q rfl⟩
  | .nan => .isTrue fun _ h => by cases h
  | .posInf => .isTrue fun _ h => by cases h
  | .negInf => .isTrue fun _ h => by cases h

/-- `x + y` -/
def add : PyFloat → PyFloat → PyFloat
  | .finite p, .finite q => F.round (p + q)
  | .nan, _ => .nan
  | _, .nan => .nan
  | .posInf, .negInf => .nan
  | .negInf, .posInf => .nan
  | .finite _, x => x
  | x, _ => x

/-- `x - y` -/
def sub (x y : PyFloat) : PyFloat := F.add x y.neg

/-- An infinity with the sign of the number, NaN for zero. -/
def infinity (q : Rat) : PyFloat := if q = 0 then .nan else if 0 < q then .posInf else .negInf

/-- `x * y` -/
def mul : PyFloat → PyFloat → PyFloat
  | .finite p, .finite q => F.round (p * q)
  | .nan, _ => .nan
  | _, .nan => .nan
  | .finite p, .posInf => infinity p
  | .finite p, .negInf => infinity (-p)
  | .posInf, .finite q => infinity q
  | .negInf, .finite q => infinity (-q)
  | .posInf, .posInf => .posInf
  | .negInf, .negInf => .posInf
  | _, _ => .negInf

/-- `x / y`, `none` for a `ZeroDivisionError`. -/
def div (x y : PyFloat) : Option PyFloat :=
  if y.isZero then none
  else match x, y with
    | .finite p, .finite q => some (F.round (p / q))
    | .nan, _ => some .nan
    | _, .nan => some .nan
    | .finite _, _ => some (.finite 0)
    | .posInf, .finite q => some (infinity q)
    | .negInf, .finite q => some (infinity (-q))
    | _, _ => some .nan

/-- The sum from left to right. -/
def total (l : List PyFloat) : PyFloat := l.foldl F.add (.finite 0)

section Signs

variable {F} {x y z : PyFloat}

/-- Small integers are floats. -/
theorem isFloat_natCast {n : Nat} (h : n ≤ 2 ^ 53) : F.IsFloat (.finite n) := by
  intro q hq
  cases hq
  exact F.round_natCast n h

/-- Rounding does not pass a float. -/
theorem round_cases {p q : Rat} (hp : F.IsFloat (.finite p)) (h : p ≤ q) :
    F.round q = .posInf ∨ ∃ r, F.round q = .finite r ∧ p ≤ r := by
  have hle := F.round_mono p q h
  rw [hp p rfl] at hle
  exact le_finite_cases hle

/-- Every format has zero, and rounding keeps it. -/
theorem isFloat_zero : F.IsFloat (.finite 0) := by
  simpa using @isFloat_natCast F 0 (by decide)

/-- Every format has one, and rounding keeps it. -/
theorem isFloat_one : F.IsFloat (.finite 1) := by
  simpa using @isFloat_natCast F 1 (by decide)

/-- Rounding does not pass zero. -/
theorem round_notNeg {q : Rat} (h : 0 ≤ q) : (F.round q).NotNeg := by
  rcases round_cases isFloat_zero h with heq | ⟨r, heq, hr⟩
  · rw [heq]
    exact notNeg_posInf
  · rw [heq]
    exact notNeg_finite.mpr hr

/-- The infinity with the sign of such a number, or NaN. -/
theorem infinity_notNeg {q : Rat} (h : 0 ≤ q) : (infinity q).NotNeg := by
  unfold infinity
  split_ifs with hzero hpos
  · exact notNeg_nan
  · exact notNeg_posInf
  · exact absurd (le_antisymm (not_lt.mp hpos) h) hzero

/-- Sums of floats that are not negative are not negative. -/
theorem add_notNeg (hx : x.NotNeg) (hy : y.NotNeg) : (F.add x y).NotNeg := by
  rcases hx.cases with ⟨p, rfl, hp⟩ | rfl | rfl <;>
    rcases hy.cases with ⟨q, rfl, hq⟩ | rfl | rfl <;>
    first
    | exact round_notNeg (add_nonneg hp hq)
    | rfl

/-- Nor are products. -/
theorem mul_notNeg (hx : x.NotNeg) (hy : y.NotNeg) : (F.mul x y).NotNeg := by
  rcases hx.cases with ⟨p, rfl, hp⟩ | rfl | rfl <;>
    rcases hy.cases with ⟨q, rfl, hq⟩ | rfl | rfl <;>
    first
    | exact round_notNeg (mul_nonneg hp hq)
    | exact infinity_notNeg ‹_›
    | rfl

/-- Only zero cannot be divided by. -/
theorem div_eq_none : F.div x y = none ↔ y.isZero = true := by
  unfold div
  split
  · simp [*]
  · rename_i h
    cases x <;> cases y <;> simp [h]

/-- Nor are quotients. -/
theorem div_notNeg (hx : x.NotNeg) (hy : y.NotNeg) (h : F.div x y = some z) : z.NotNeg := by
  unfold div at h
  split at h
  · cases h
  · rcases hx.cases with ⟨p, rfl, hp⟩ | rfl | rfl <;>
      rcases hy.cases with ⟨q, rfl, hq⟩ | rfl | rfl <;>
      cases h <;>
      first
      | exact round_notNeg (div_nonneg hp hq)
      | exact infinity_notNeg ‹_›
      | rfl

end Signs

section Bounds

variable {F} {q : Rat} {x y : PyFloat} {l : List PyFloat}

/-- NaN, or not below a number. -/
def AtLeast (q : Rat) (x : PyFloat) : Prop := x = .nan ∨ (PyFloat.finite q).le x = true

/-- Adding what is not negative does not lead below a float. -/
theorem add_atLeast (hq : F.IsFloat (.finite q)) (hx : AtLeast q x) (hy : y.NotNeg) :
    AtLeast q (F.add x y) := by
  rcases hx with rfl | hle
  · exact .inl rfl
  rcases le_finite_cases hle with rfl | ⟨r, rfl, hr⟩
  · rcases hy.cases with ⟨p, rfl, -⟩ | rfl | rfl
    · exact .inr rfl
    · exact .inl rfl
    · exact .inr rfl
  · rcases hy.cases with ⟨p, rfl, hp⟩ | rfl | rfl
    -- the exact sum is not below the number, so its rounding is not either
    · have hsum : q ≤ r + p := by linarith
      have hround := F.round_mono q (r + p) hsum
      rw [hq q rfl] at hround
      exact .inr hround
    · exact .inl rfl
    · exact .inr rfl

/-- What is not below a positive number is not zero. -/
theorem AtLeast.isZero (h : AtLeast q x) (hq : 0 < q) : x.isZero = false := by
  rcases h with rfl | hle
  · rfl
  rcases le_finite_cases hle with rfl | ⟨r, rfl, hr⟩
  · rfl
  · have hne : r ≠ 0 := (hq.trans_le hr).ne'
    simp [PyFloat.isZero, hne]

/-- One more is not zero, since one is a float. -/
theorem one_add_ne_zero (hx : x.NotNeg) : (F.add (.finite 1) x).isZero = false :=
  (add_atLeast isFloat_one (.inr rfl) hx).isZero one_pos

/-- A sum from left to right, from any start. -/
theorem foldl_add_notNeg (hx : x.NotNeg) (h : ∀ y ∈ l, y.NotNeg) : (l.foldl F.add x).NotNeg := by
  induction l generalizing x with
  | nil => exact hx
  | cons y l ih =>
    rw [List.forall_mem_cons] at h
    exact ih (add_notNeg hx h.1) h.2

/-- It does not fall below its start. -/
theorem foldl_add_atLeast (hq : F.IsFloat (.finite q)) (hx : AtLeast q x)
    (h : ∀ y ∈ l, y.NotNeg) : AtLeast q (l.foldl F.add x) := by
  induction l generalizing x with
  | nil => exact hx
  | cons y l ih =>
    rw [List.forall_mem_cons] at h
    exact ih (add_atLeast hq hx h.1) h.2

/-- The sum of a list. -/
theorem total_notNeg (h : ∀ y ∈ l, y.NotNeg) : (F.total l).NotNeg :=
  foldl_add_notNeg (notNeg_finite.mpr le_rfl) h

/-- Greater than zero; NaN counts. -/
abbrev Positive (x : PyFloat) : Prop := x.le (.finite 0) = false

/-- What is positive is not negative. -/
theorem Positive.notNeg (h : Positive x) : x.NotNeg := by
  cases x with
  | finite q =>
    have hpos : 0 < q := by simpa [Positive, PyFloat.le] using h
    exact notNeg_finite.mpr hpos.le
  | nan => rfl
  | posInf => rfl
  | negInf => cases h

/-- A sum of positive floats is at least the first of them. -/
theorem total_ne_zero (hne : l ≠ []) (h : ∀ x ∈ l, F.IsFloat x ∧ Positive x) :
    (F.total l).isZero = false := by
  obtain ⟨x, l, rfl⟩ := List.exists_cons_of_ne_nil hne
  rw [List.forall_mem_cons] at h
  obtain ⟨⟨hfloat, hpos⟩, hrest⟩ := h
  have hnotNeg : ∀ y ∈ l, y.NotNeg := fun y hy => (hrest y hy).2.notNeg
  show (l.foldl F.add (F.add (.finite 0) x)).isZero = false
  cases x with
  | finite q =>
    have hq : 0 < q := by simpa [Positive, PyFloat.le] using hpos
    -- the first number is a float, so adding it to zero does not round it
    have hstart : F.add (.finite 0) (.finite q) = .finite q := by
      simpa [add] using hfloat q rfl
    rw [hstart]
    exact (foldl_add_atLeast hfloat (.inr (by simp [PyFloat.le])) hnotNeg).isZero hq
  -- from here on the sum is at least one, or no number
  | nan => exact (foldl_add_atLeast isFloat_one (.inl rfl) hnotNeg).isZero one_pos
  | posInf => exact (foldl_add_atLeast isFloat_one (.inr rfl) hnotNeg).isZero one_pos
  | negInf => cases hpos

end Bounds

/-- Exact arithmetic. -/
def exact : FloatFormat where
  round := .finite
  round_mono := by
    intro p q h
    simpa [PyFloat.le] using h
  round_natCast := fun _ _ => rfl

section Exact

variable (p q : Rat)

@[simp] theorem exact_add : exact.add (.finite p) (.finite q) = .finite (p + q) := rfl

@[simp] theorem exact_sub : exact.sub (.finite p) (.finite q) = .finite (p - q) := by
  rw [sub_eq_add_neg]
  rfl

@[simp] theorem exact_mul : exact.mul (.finite p) (.finite q) = .finite (p * q) := rfl

@[simp] theorem exact_div :
    exact.div (.finite p) (.finite q) = if q = 0 then none else some (.finite (p / q)) := by
  simp [div, exact]

/-- A sum from left to right, from any start. -/
theorem exact_foldl_add (l : List Rat) :
    (l.map .finite).foldl exact.add (.finite p) = .finite (p + l.sum) := by
  induction l generalizing p with
  | nil => simp
  | cons q l ih => simp [ih, add_assoc]

/-- The sum of numbers. -/
@[simp] theorem exact_total (l : List Rat) : exact.total (l.map .finite) = .finite l.sum := by
  rw [total, exact_foldl_add, zero_add]

end Exact

end FloatFormat

/-! ## binary64 -/

namespace Binary64

/-- The exponent of the last digit of a positive number. -/
def ulpExponent (q : Rat) : Int := Max.max (Int.log 2 q - 52) (-1074)

/-- A number that is not negative, rounded to its last digit. -/
def nearest (q : Rat) : Rat := roundHalfEven (q / 2 ^ ulpExponent q) * 2 ^ ulpExponent q

/-- A number that is not negative, rounded to a float: to infinity from 2 ^ 1024 on. -/
def magnitude (q : Rat) : PyFloat := if 2 ^ 1024 ≤ nearest q then .posInf else .finite (nearest q)

/-- To the nearest float, the even one of two. -/
def round (q : Rat) : PyFloat := if q < 0 then (magnitude (-q)).neg else magnitude q

variable {p q : Rat}

/-- The last digit weighs something. -/
theorem ulp_pos : (0 : Rat) < 2 ^ ulpExponent q := zpow_pos two_pos _

/-- A multiple of the last digit is not changed. -/
theorem nearest_of_multiple {k : Int} (h : q = k * 2 ^ ulpExponent q) : nearest q = q := by
  have hpos := @ulp_pos q
  have hquotient : q / 2 ^ ulpExponent q = k := by
    rw [div_eq_iff hpos.ne']
    exact h
  rw [nearest, hquotient, roundHalfEven_intCast]
  exact h.symm

/-- Zero is a multiple of every digit. -/
theorem nearest_zero : nearest 0 = 0 := @nearest_of_multiple 0 0 (by simp)

/-- A power of two is a multiple of every smaller one. -/
theorem zpow_eq {u e : Int} (h : u ≤ e) :
    (2 : Rat) ^ e = ((2 ^ (e - u).toNat : Int) : Rat) * 2 ^ u := by
  have hexp : e = (e - u).toNat + u := by omega
  conv_lhs => rw [hexp]
  rw [zpow_add₀ two_ne_zero, zpow_natCast]
  push_cast
  rfl

/-- A power of two that is a multiple of the last digit is not passed. -/
theorem nearest_le {e : Int} (he : ulpExponent q ≤ e) (h : q ≤ 2 ^ e) : nearest q ≤ 2 ^ e := by
  have hpos := @ulp_pos q
  rw [zpow_eq he] at h ⊢
  rw [nearest, mul_le_mul_iff_left₀ hpos, Int.cast_le]
  exact roundHalfEven_le ((div_le_iff₀ hpos).mpr h)

/-- From below either. -/
theorem le_nearest {e : Int} (he : ulpExponent q ≤ e) (h : 2 ^ e ≤ q) : 2 ^ e ≤ nearest q := by
  have hpos := @ulp_pos q
  rw [zpow_eq he] at h ⊢
  rw [nearest, mul_le_mul_iff_left₀ hpos, Int.cast_le]
  exact le_roundHalfEven ((le_div_iff₀ hpos).mpr h)

/-- Rounding does not pass zero. -/
theorem nearest_nonneg (h : 0 ≤ q) : 0 ≤ nearest q := by
  have hpos := @ulp_pos q
  have hround : 0 ≤ roundHalfEven (q / 2 ^ ulpExponent q) :=
    le_roundHalfEven (by simpa using div_nonneg h hpos.le)
  exact mul_nonneg (Int.cast_nonneg hround) hpos.le

/-- Rounding to the last digit keeps the order, although the digit changes its weight. -/
theorem nearest_mono (hp : 0 ≤ p) (h : p ≤ q) : nearest p ≤ nearest q := by
  rcases hp.eq_or_lt with rfl | hp
  · rw [nearest_zero]
    exact nearest_nonneg h
  have hlog : Int.log 2 p ≤ Int.log 2 q := Int.log_mono_right hp h
  by_cases heq : ulpExponent p = ulpExponent q
  -- digits of the same weight
  · have hpos := @ulp_pos q
    rw [nearest, nearest, heq, mul_le_mul_iff_left₀ hpos, Int.cast_le]
    exact roundHalfEven_mono ((div_le_div_iff_of_pos_right hpos).mpr h)
  -- a power of two lies between the numbers, and neither is rounded past it
  · have hweights : ulpExponent p ≤ Int.log 2 q ∧ ulpExponent q ≤ Int.log 2 q ∧
        Int.log 2 p + 1 ≤ Int.log 2 q := by
      unfold ulpExponent at heq ⊢
      omega
    obtain ⟨hulp, hulp', hsucc⟩ := hweights
    have hbelow : p ≤ 2 ^ Int.log 2 q :=
      (Int.lt_zpow_succ_log_self (by norm_num) p).le.trans
        (zpow_le_zpow_right₀ (by norm_num) hsucc)
    have habove : (2 : Rat) ^ Int.log 2 q ≤ q := Int.zpow_log_le_self (by norm_num) (hp.trans_le h)
    exact (nearest_le hulp hbelow).trans (le_nearest hulp' habove)

/-- Overflow keeps it as well. -/
theorem magnitude_mono (hp : 0 ≤ p) (h : p ≤ q) : (magnitude p).le (magnitude q) = true := by
  have hnearest := nearest_mono hp h
  unfold magnitude
  split_ifs with hinf hinf'
  · rfl
  · exact absurd (hinf.trans hnearest) hinf'
  · rfl
  · simpa [PyFloat.le] using hnearest

/-- A magnitude is not negative. -/
theorem magnitude_nonneg (h : 0 ≤ q) : (PyFloat.finite 0).le (magnitude q) = true := by
  have hzero := magnitude_mono le_rfl h
  have hsmall : ¬ (2 : Rat) ^ 1024 ≤ 0 := not_le.mpr (by positivity)
  rwa [magnitude, nearest_zero, if_neg hsmall] at hzero

/-- The sign turns the order round. -/
theorem neg_le_neg {x y : PyFloat} (h : x.le y = true) : y.neg.le x.neg = true := by
  cases x <;> cases y <;> simp_all [PyFloat.le, PyFloat.neg]

/-- What is not positive is below what is not negative. -/
theorem neg_le_zero_le {x y : PyFloat} (hx : (PyFloat.finite 0).le x = true)
    (hy : (PyFloat.finite 0).le y = true) : x.neg.le y = true := by
  rcases PyFloat.le_finite_cases hx with rfl | ⟨a, rfl, ha⟩ <;>
    rcases PyFloat.le_finite_cases hy with rfl | ⟨b, rfl, hb⟩
  · rfl
  · rfl
  · rfl
  · have hab : -a ≤ b := by linarith
    simpa [PyFloat.le, PyFloat.neg] using hab

/-- Rounding to a float keeps the order. -/
theorem round_mono (h : p ≤ q) : (round p).le (round q) = true := by
  unfold round
  split_ifs with hp hq
  · exact neg_le_neg (magnitude_mono (by linarith) (by linarith))
  · exact neg_le_zero_le (magnitude_nonneg (by linarith)) (magnitude_nonneg (not_lt.mp hq))
  · linarith
  · exact magnitude_mono (not_lt.mp hp) h

/-- An integer of at most 53 digits is a multiple of its last one. -/
theorem nearest_natCast {n : Nat} (h : n ≤ 2 ^ 53) : nearest n = n := by
  rcases h.lt_or_eq with hlt | rfl
  -- fewer than 53 digits: the last one weighs at most 1
  · have hulp : ulpExponent (n : Rat) ≤ 0 := by
      have hlog : Nat.log 2 n < 53 := Nat.log_lt_of_lt_pow' (by norm_num) hlt
      unfold ulpExponent
      rw [Int.log_natCast]
      omega
    refine @nearest_of_multiple _ (n * 2 ^ (0 - ulpExponent (n : Rat)).toNat) ?_
    have hone := zpow_eq hulp
    rw [zpow_zero] at hone
    rw [Int.cast_mul, mul_assoc, ← hone, mul_one, Int.cast_natCast]
  · have hulp : ulpExponent ((2 ^ 53 : Nat) : Rat) = 1 := by
      unfold ulpExponent
      rw [Int.log_natCast, Nat.log_pow (by norm_num)]
      norm_num
    refine @nearest_of_multiple _ (2 ^ 52) ?_
    rw [hulp]
    norm_num

/-- So it is a float. -/
theorem round_natCast {n : Nat} (h : n ≤ 2 ^ 53) : round n = .finite n := by
  have hsmall : ¬ (2 : Rat) ^ 1024 ≤ n := by
    rw [not_le]
    calc (n : Rat) ≤ 2 ^ 53 := by exact_mod_cast h
      _ < 2 ^ 1024 := pow_lt_pow_right₀ (by norm_num) (by norm_num)
  rw [round, if_neg (not_lt.mpr (Nat.cast_nonneg n)), magnitude, nearest_natCast h, if_neg hsmall]

/-- Half of the least positive float, and what is smaller, is rounded to zero. -/
theorem round_eq_zero (hq : 0 < q) (h : q ≤ 2 ^ (-1075 : Int)) : round q = .finite 0 := by
  -- a subnormal, so the unit is the least positive float
  have hulp : ulpExponent q = -1074 := by
    have hlog : Int.log 2 q ≤ Int.log 2 ((2 : Rat) ^ (-1075 : Int)) := Int.log_mono_right hq h
    have hhalf : Int.log 2 ((2 : Rat) ^ (-1075 : Int)) = -1075 := Int.log_zpow (by norm_num) _
    unfold ulpExponent
    omega
  have hpos : (0 : Rat) < 2 ^ (-1074 : Int) := zpow_pos two_pos _
  -- at most half a unit, and ties go to the even zero
  have hquotient : q / 2 ^ (-1074 : Int) ≤ 1 / 2 := by
    have hhalf : (2 : Rat) ^ (-1075 : Int) = 1 / 2 * 2 ^ (-1074 : Int) := by
      rw [show (-1075 : Int) = -1074 - 1 by norm_num, zpow_sub_one₀ two_ne_zero, mul_comm, one_div]
    rw [div_le_iff₀ hpos, ← hhalf]
    exact h
  have hnearest : nearest q = 0 := by
    rw [nearest, hulp, roundHalfEven_eq_zero (div_nonneg hq.le hpos.le) hquotient, Int.cast_zero,
      zero_mul]
  have hsmall : ¬ (2 : Rat) ^ 1024 ≤ 0 := not_le.mpr (by positivity)
  rw [round, if_neg (not_lt.mpr hq.le), magnitude, hnearest, if_neg hsmall]

end Binary64

/-- The floats of Python. -/
def FloatFormat.binary64 : FloatFormat where
  round := Binary64.round
  round_mono := fun _ _ => Binary64.round_mono
  round_natCast := fun _ => Binary64.round_natCast

-- a price so small becomes zero, and one so great infinity
example : FloatFormat.binary64.round (1 / 10 ^ 400) = .finite 0 := by decide +kernel

example : FloatFormat.binary64.round (10 ^ 400) = .posInf := by decide +kernel
