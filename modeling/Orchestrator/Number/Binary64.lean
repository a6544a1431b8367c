/-!
IEEE 754 binary64 numbers as 64-bit words.

A number is kept as its word, so equality of numbers is decidable and distinguishes `0.0` from
`-0.0`; `isEqual` is the comparison of the standard. Rounding from a ratio or a decimal is exact
integer arithmetic. The arithmetic operations go through the machine's floating-point unit.
-/

namespace Orchestrator

/-- A binary64 number, given by its word. -/
structure Binary64 where
  bits : UInt64
  deriving DecidableEq, Repr, Inhabited

namespace Binary64

def ofFloat (x : Float) : Binary64 := ⟨x.toBits⟩

def toFloat (x : Binary64) : Float := Float.ofBits x.bits

/-- The sign bit. -/
def isNegative (x : Binary64) : Bool := Nat.pow 2 63 ≤ x.bits.toNat

/-- The word without its sign bit. -/
def magnitudeBits (x : Binary64) : Nat := x.bits.toNat % Nat.pow 2 63

def exponentField (x : Binary64) : Nat := x.magnitudeBits / Nat.pow 2 52

def fractionField (x : Binary64) : Nat := x.magnitudeBits % Nat.pow 2 52

def isFinite (x : Binary64) : Bool := x.exponentField < 2047

def isNaN (x : Binary64) : Bool := x.exponentField == 2047 && x.fractionField != 0

def isInfinite (x : Binary64) : Bool := x.exponentField == 2047 && x.fractionField == 0

def isZero (x : Binary64) : Bool := x.magnitudeBits == 0

/-- The absolute value of a finite number as `m * 2 ^ q`. -/
def significand (x : Binary64) : Nat × Int :=
  if x.exponentField = 0 then (x.fractionField, -1074)
  else (Nat.pow 2 52 + x.fractionField, (x.exponentField : Int) - 1075)

/-- The word with the given sign and magnitude bits. -/
def ofFields (negative : Bool) (magnitude : Nat) : Binary64 :=
  ⟨UInt64.ofNat (if negative then Nat.pow 2 63 + magnitude else magnitude)⟩

def zero : Binary64 := ⟨0⟩

def infinity (negative : Bool) : Binary64 := ofFields negative (2047 * Nat.pow 2 52)

def nan : Binary64 := ofFields false (2047 * Nat.pow 2 52 + Nat.pow 2 51)

/-- `num / den` rounded to an integer, a half going to the even neighbour. -/
def roundHalfEven (num den : Nat) : Nat :=
  let whole := num / den
  let twice := 2 * (num % den)
  if twice < den then whole
  else if den < twice then whole + 1
  else if whole % 2 = 0 then whole else whole + 1

/-- The binary64 number nearest to `num / den`, ties going to the even significand, and infinity
from the value half a unit above the largest finite number. -/
def ofRatio (negative : Bool) (num den : Nat) : Binary64 :=
  if num = 0 ∨ den = 0 then ofFields negative 0 else
    let guess : Int := (num.log2 : Int) - (den.log2 : Int) - 52
    let small : Bool :=
      if 0 ≤ guess then num < den * Nat.pow 2 52 * Nat.pow 2 guess.toNat
      else num * Nat.pow 2 (-guess).toNat < den * Nat.pow 2 52
    let scale : Int := max (if small then guess - 1 else guess) (-1074)
    let m :=
      if 0 ≤ scale then roundHalfEven num (den * Nat.pow 2 scale.toNat)
      else roundHalfEven (num * Nat.pow 2 (-scale).toNat) den
    let magnitude :=
      if m < Nat.pow 2 52 then m else ((scale + 1074).toNat) * Nat.pow 2 52 + m
    if 2047 * Nat.pow 2 52 ≤ magnitude then infinity negative else ofFields negative magnitude

/-- The number nearest to `digits * 10 ^ exponent`. -/
def ofDecimal (negative : Bool) (digits : Nat) (exponent : Int) : Binary64 :=
  let width : Int := (Nat.toDigits 10 digits).length
  if digits = 0 then ofFields negative 0
  else if exponent + width > 400 then infinity negative
  else if exponent + width < -400 then ofFields negative 0
  else if 0 ≤ exponent then ofRatio negative (digits * Nat.pow 10 exponent.toNat) 1
  else ofRatio negative digits (Nat.pow 10 (-exponent).toNat)

/-- The number nearest to an integer. -/
def ofInt (n : Int) : Binary64 := ofRatio (n < 0) n.natAbs 1

/-- The integer value of a finite number after dropping its fraction, with infinities and NaN
read as zero. -/
def truncate (x : Binary64) : Int :=
  if x.isFinite then
    let (m, q) := x.significand
    let size : Nat := if 0 ≤ q then m * Nat.pow 2 q.toNat else m / Nat.pow 2 (-q).toNat
    if x.isNegative then -(size : Int) else size
  else 0

/-- Whether a finite number has no fraction. -/
def isWhole (x : Binary64) : Bool :=
  let (m, q) := x.significand
  x.isFinite && (0 ≤ q || m % Nat.pow 2 (-q).toNat == 0)

/-- Equality as the standard defines it: NaN differs from everything, the zeros are equal. -/
def isEqual (x y : Binary64) : Bool :=
  !x.isNaN && !y.isNaN && (x == y || (x.isZero && y.isZero))

/-- Position in the total order of all words: negative NaN, numbers by value with `-0.0` before
`0.0`, positive NaN. -/
def orderKey (x : Binary64) : Int :=
  if x.isNegative then -(x.magnitudeBits : Int) - 1 else x.magnitudeBits

def compare (x y : Binary64) : Ordering := Ord.compare x.orderKey y.orderKey

def neg (x : Binary64) : Binary64 := ofFields (!x.isNegative) x.magnitudeBits

def abs (x : Binary64) : Binary64 := ofFields false x.magnitudeBits

def add (x y : Binary64) : Binary64 := ofFloat (x.toFloat + y.toFloat)

def sub (x y : Binary64) : Binary64 := ofFloat (x.toFloat - y.toFloat)

def mul (x y : Binary64) : Binary64 := ofFloat (x.toFloat * y.toFloat)

def div (x y : Binary64) : Binary64 := ofFloat (x.toFloat / y.toFloat)

def pow (x y : Binary64) : Binary64 := ofFloat (Float.pow x.toFloat y.toFloat)

/-- Rounds to the nearest whole number, a half away from zero. -/
def round (x : Binary64) : Binary64 := ofFloat x.toFloat.round

/-- The remainder of truncated division, exact, with the sign of the dividend. -/
def rem (x y : Binary64) : Binary64 :=
  if x.isNaN || y.isNaN || x.isInfinite || y.isZero then nan
  else if y.isInfinite then x
  else
    let (a, p) := x.significand
    let (b, q) := y.significand
    let low := min p q
    let rest := (a * Nat.pow 2 (p - low).toNat) % (b * Nat.pow 2 (q - low).toNat)
    if 0 ≤ low then ofRatio x.isNegative (rest * Nat.pow 2 low.toNat) 1
    else ofRatio x.isNegative rest (Nat.pow 2 (-low).toNat)

/-- Drops the fraction. -/
def trunc (x : Binary64) : Binary64 :=
  if !x.isFinite then x
  else
    let (m, q) := x.significand
    if 0 ≤ q then x else ofRatio x.isNegative (m / Nat.pow 2 (-q).toNat) 1

/-- The quotient that leaves a non-negative remainder. -/
def divEuclid (x y : Binary64) : Binary64 :=
  let q := (x.div y).trunc
  let r := x.rem y
  if r.isNegative && !r.isZero && !r.isNaN then
    if y.isNegative then q.add (ofInt 1) else q.sub (ofInt 1)
  else q

end Binary64

end Orchestrator
