/-!
# Binary floating point in exact arithmetic

A positive value of the 64-bit binary format is `mantissa * 2 ^ exponent`. Reading a decimal rounds to
the nearest such value, a tie going to the even mantissa; writing one gives the fewest decimal digits
that read back. Everything is computed on natural numbers.
-/
namespace AwaitCalls.Decimal

/-- A non-negative value of the 64-bit binary format. -/
structure Binary64 where
  mantissa : Nat
  exponent : Int
deriving DecidableEq, Repr, Inhabited

/-- `digits * 10 ^ exponent`, a decimal without a point. -/
structure Scaled where
  digits : Nat
  exponent : Int
deriving DecidableEq, Repr, Inhabited

namespace Binary64

def zero : Binary64 := ⟨0, 0⟩

/-- Number of mantissa bits. -/
def precision : Nat := 53

/-- The least exponent, which the smallest values share. -/
def minExponent : Int := -1074

/-- The greatest exponent of a finite value. -/
def maxExponent : Int := 971

/-- Numerator and denominator of `n * base ^ e`. -/
def fraction (n base : Nat) (e : Int) : Nat × Nat :=
  if e ≥ 0 then (n * Nat.pow base e.toNat, 1) else (n, Nat.pow base (-e).toNat)

/-- The nearest natural number to a quotient, a tie going to the even one. -/
def roundQuotient (num den : Nat) : Nat :=
  let q := num / den
  let r := num % den
  if 2 * r > den || (2 * r = den && q % 2 = 1) then q + 1 else q

/-- The value nearest to a fraction; nothing if it is too large. -/
def ofFraction? (num den : Nat) : Option Binary64 :=
  if num = 0 then some zero
  else
    -- Choose the exponent that leaves 53 bits, but not less than the least one.
    let guess : Int := (Nat.log2 num : Int) - (Nat.log2 den : Int) - (precision : Int)
    let scaled (e : Int) : Nat × Nat :=
      if e ≥ 0 then (num, den <<< e.toNat) else (num <<< (-e).toNat, den)
    let fits (e : Int) : Bool :=
      let (a, b) := scaled e
      a < b <<< precision
    let e := if fits guess then guess else guess + 1
    let e := max e minExponent
    let (a, b) := scaled e
    let m := roundQuotient a b
    let (m, e) := if m = 1 <<< precision then (m / 2, e + 1) else (m, e)
    if e > maxExponent then none else some ⟨m, e⟩

/-- The value nearest to a decimal. -/
def ofScaled? (d : Scaled) : Option Binary64 :=
  let (num, den) := fraction d.digits 10 d.exponent
  ofFraction? num den

/-- The value that a bit pattern encodes, without its sign; nothing for an infinity or no number. -/
def ofBits? (bits : UInt64) : Option Binary64 :=
  let n := bits.toNat
  let biased : Nat := (n >>> 52) % 2048
  let frac : Nat := n % (1 <<< 52)
  if biased = 2047 then none
  else if biased = 0 then some ⟨frac, minExponent⟩
  else some ⟨frac + (1 <<< 52), (biased : Int) - 1075⟩

/-- Is the value a natural number? -/
def toNat? (x : Binary64) : Option Nat :=
  if x.exponent ≥ 0 then some (x.mantissa <<< x.exponent.toNat)
  else
    let d := 1 <<< (-x.exponent).toNat
    if x.mantissa % d = 0 then some (x.mantissa / d) else none

/-- Number of decimal digits of a positive number. -/
def digitCount (n : Nat) : Nat := (Nat.toDigits 10 n).length

/-- The ends of the interval of reals that read as the value, over a common denominator, as
(low, value, high, denominator). -/
def interval (x : Binary64) : Nat × Nat × Nat × Nat :=
  -- Quarters of a unit in the last place keep all three numerators whole.
  let (unit, den) := fraction 1 2 (x.exponent - 2)
  let isBoundary := x.mantissa = 1 <<< 52 && x.exponent > minExponent
  let below := if isBoundary then 1 else 2
  ((4 * x.mantissa - below) * unit, 4 * x.mantissa * unit, (4 * x.mantissa + 2) * unit, den)

/-- The decimal with `digits * 10 ^ e` for the least number of digits that reads back as the value. Of
two that do, the nearer one. -/
def shortest (x : Binary64) : Scaled :=
  if x.mantissa = 0 then ⟨0, 0⟩
  else
    let (low, value, high, den) := interval x
    let isEven := x.mantissa % 2 = 0
    -- The value lies in `[10 ^ (top - 1), 10 ^ top)`.
    let whole := value / den
    let top : Int :=
      if whole > 0 then digitCount whole
      else
        let rec leading (fuel : Nat) (scale : Nat) (k : Int) : Int :=
          match fuel with
          | 0 => k
          | fuel + 1 => if value * scale ≥ den then k else leading fuel (scale * 10) (k - 1)
        leading 400 10 0
    let candidate (count : Nat) : Option Scaled :=
      let e : Int := top - count
      -- Scale so that one unit of the grid is one.
      let up := if e ≥ 0 then 1 else Nat.pow 10 (-e).toNat
      let down := if e ≥ 0 then den * Nat.pow 10 e.toNat else den
      let floor := value * up / down
      let inside (n : Nat) : Bool :=
        let p := n * down
        (if isEven then low * up ≤ p else low * up < p) &&
          (if isEven then p ≤ high * up else p < high * up)
      let lo := inside floor
      let hi := inside (floor + 1)
      if lo && hi then
        let below := value * up - floor * down
        let above := (floor + 1) * down - value * up
        some ⟨if below < above || (below = above && floor % 2 = 0) then floor else floor + 1, e⟩
      else if lo then some ⟨floor, e⟩
      else if hi then some ⟨floor + 1, e⟩
      else none
    ((List.range 17).findSome? fun i => candidate (i + 1)).getD ⟨0, 0⟩

end Binary64

/-- Drop the zeros at the end of the digits. -/
def Scaled.trim (d : Scaled) : Scaled :=
  let rec go (fuel : Nat) (n : Nat) (e : Int) : Scaled :=
    match fuel with
    | 0 => ⟨n, e⟩
    | fuel + 1 => if n ≠ 0 && n % 10 = 0 then go fuel (n / 10) (e + 1) else ⟨n, e⟩
  if d.digits = 0 then ⟨0, 0⟩ else go (Binary64.digitCount d.digits) d.digits d.exponent

def decimalText (n : Nat) : String := String.ofList (Nat.toDigits 10 n)

/-- The decimal written out without an exponent. -/
def Scaled.positional (d : Scaled) : String :=
  let d := d.trim
  let digits := (Nat.toDigits 10 d.digits)
  if d.exponent ≥ 0 then
    String.ofList (digits ++ List.replicate d.exponent.toNat '0')
  else
    let places := (-d.exponent).toNat
    let padded := List.replicate (places + 1 - digits.length) '0' ++ digits
    let cut := padded.length - places
    String.ofList (padded.take cut ++ '.' :: padded.drop cut)

end AwaitCalls.Decimal
