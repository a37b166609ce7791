import Mathlib.Data.List.DropRight
import Tomiris.ForStd.Floats

/-!
# Functions on floats

The logarithm of a number near 1, the standard deviation of a population, and the text of a number
with so many significant digits, to more digits than a float has.
-/

namespace FloatFunctions

/-- The logarithm of a number near 1: the series of the area hyperbolic tangent. -/
def log (q : Rat) : Rat :=
  let y := (q - 1) / (q + 1)
  2 * ((List.range 16).map (fun k => y ^ (2 * k + 1) / (2 * k + 1 : Nat))).sum

/-- Newton's iteration for the root of an integer, from above. -/
def isqrtFrom (n : Nat) : Nat → Nat → Nat
  | 0, guess => guess
  | fuel + 1, guess =>
    let next := (guess + n / guess) / 2
    if next < guess then isqrtFrom n fuel next else guess

/-- The square root, to 100 binary places. -/
def sqrt (q : Rat) : Rat :=
  let n := (q * 4 ^ 100).floor.toNat
  isqrtFrom n 100 (2 ^ (n.log2 / 2 + 1)) / 2 ^ 100

/-- `statistics.pstdev(data)` -/
def pstdev (data : List Rat) : Rat :=
  let mean := data.sum / data.length
  sqrt ((data.map (fun x => (x - mean) ^ 2)).sum / data.length)

/-- `f"{x:.{n}g}"` -/
def general (digits : Nat) (x : Rat) : String :=
  if x = 0 then "0"
  else
    let exponent := Int.log 10 |x|
    let scaled := (roundHalfEven (|x| / 10 ^ (exponent + 1 - digits))).toNat
    -- the digits are rounded up to the next power of ten
    let (exponent, scaled) :=
      if scaled = 10 ^ digits then (exponent + 1, scaled / 10) else (exponent, scaled)
    let text := Nat.toDigits 10 scaled
    let significant := text.rdropWhile (· == '0')
    let fraction (l : List Char) := if l.isEmpty then [] else '.' :: l
    let sign := if x < 0 then ['-'] else []
    if exponent < -4 ∨ digits ≤ exponent then
      let power := Nat.toDigits 10 exponent.natAbs
      String.ofList (sign ++ significant.take 1 ++ fraction (significant.drop 1) ++
        ['e', if exponent < 0 then '-' else '+'] ++ List.replicate (2 - power.length) '0' ++ power)
    else if 0 ≤ exponent then
      let whole := (exponent + 1).toNat
      String.ofList (sign ++ text.take whole ++ fraction (significant.drop whole))
    else
      String.ofList (sign ++ ['0', '.'] ++ List.replicate (-exponent - 1).toNat '0' ++ significant)

example : [general 8 (1 / 3), general 8 (1 / 100000), general 6 100, general 6 (-999999999)] =
    ["0.33333333", "1e-05", "100", "-1e+09"] := by
  decide +kernel

end FloatFunctions
