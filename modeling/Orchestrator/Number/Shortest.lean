import Orchestrator.Number.Binary64

/-!
The shortest decimal of a binary64 number.

A decimal reads back as `x` when it lies in the interval of reals that round to `x`. For one,
two, ... seventeen digits the two neighbours of `x` on that decimal grid are tested against the
interval; the first grid with a hit decides the number of digits, and of two hits the nearer one
is taken.
-/

namespace Orchestrator

/-- A decimal `digits * 10 ^ exponent`. -/
structure Decimal where
  digits : Nat
  exponent : Int
  deriving DecidableEq, Repr, Inhabited

namespace Binary64

/-- A positive rational, as a pair. -/
structure Ratio where
  num : Nat
  den : Nat

/-- `n * 2 ^ q` as a ratio. -/
def Ratio.scaled (n : Nat) (q : Int) : Ratio :=
  if 0 ≤ q then ⟨n * Nat.pow 2 q.toNat, 1⟩ else ⟨n, Nat.pow 2 (-q).toNat⟩

/-- The exponent `e` with `10 ^ e ≤ r < 10 ^ (e + 1)`, found by correcting an estimate from the
binary size. -/
def Ratio.exponent10 (r : Ratio) : Int :=
  let estimate : Int := (((r.num.log2 : Int) - (r.den.log2 : Int)) * 30103) / 100000
  let atLeast (e : Int) : Bool :=
    if 0 ≤ e then r.den * Nat.pow 10 e.toNat ≤ r.num else r.den ≤ r.num * Nat.pow 10 (-e).toNat
  let candidates := [estimate + 2, estimate + 1, estimate, estimate - 1]
  (candidates.find? atLeast).getD (estimate - 2)

/-- The interval of reals that round to a positive finite number, in quarters of a unit. -/
structure Interval where
  low : Nat
  value : Nat
  high : Nat
  scale : Int
  closed : Bool

/-- The rounding interval of `m * 2 ^ q`. Below a power of two the spacing halves, and the
ends belong to the interval when `m` is even. -/
def interval (m : Nat) (q : Int) : Interval :=
  { low := if m = Nat.pow 2 52 ∧ q ≠ -1074 then 4 * m - 1 else 4 * m - 2
    value := 4 * m
    high := 4 * m + 2
    scale := q - 2
    closed := m % 2 = 0 }

/-- Whether `digits * 10 ^ k` lies in the interval. -/
def Interval.holds (i : Interval) (digits : Nat) (k : Int) : Bool :=
  let up := Nat.pow 10 k.toNat * digits * Nat.pow 2 (-i.scale).toNat
  let down := Nat.pow 10 (-k).toNat * Nat.pow 2 i.scale.toNat
  if i.closed then i.low * down ≤ up && up ≤ i.high * down
  else i.low * down < up && up < i.high * down

/-- The distance of `digits * 10 ^ k` from the middle of the interval, in a unit that depends on
`k` and the interval alone. -/
def Interval.distance (i : Interval) (digits : Nat) (k : Int) : Nat :=
  let up : Int := (Nat.pow 10 k.toNat * digits * Nat.pow 2 (-i.scale).toNat : Nat)
  let mid : Int := (i.value * (Nat.pow 10 (-k).toNat * Nat.pow 2 i.scale.toNat) : Nat)
  (up - mid).natAbs

/-- The hit on the grid of `count` significant digits, if there is one. -/
def Interval.onGrid (i : Interval) (leading : Int) (count : Nat) : Option Decimal :=
  let k : Int := leading + 1 - count
  let r := Ratio.scaled i.value i.scale
  let below :=
    if 0 ≤ k then r.num / (r.den * Nat.pow 10 k.toNat) else r.num * Nat.pow 10 (-k).toNat / r.den
  match i.holds below k, i.holds (below + 1) k with
  | true, true =>
    let a := i.distance below k
    let b := i.distance (below + 1) k
    some (if a < b ∨ (a = b ∧ below % 2 = 0) then ⟨below, k⟩ else ⟨below + 1, k⟩)
  | true, false => some ⟨below, k⟩
  | false, true => some ⟨below + 1, k⟩
  | false, false => none

/-- The decimal without trailing zeros; `fuel` bounds their number. -/
def stripZeros : Nat → Decimal → Decimal
  | 0, d => d
  | fuel + 1, d =>
    if d.digits % 10 = 0 ∧ d.digits ≠ 0 then stripZeros fuel ⟨d.digits / 10, d.exponent + 1⟩ else d

/-- The shortest decimal that reads back as the absolute value of a finite number, the nearest of
those; zero is `0 * 10 ^ 0`. -/
def shortest (x : Binary64) : Decimal :=
  let (m, q) := x.significand
  if m = 0 then ⟨0, 0⟩ else
    let i := interval m q
    let leading := (Ratio.scaled i.value i.scale).exponent10
    let hit := (List.range 17).findSome? fun n => i.onGrid leading (n + 1)
    stripZeros 20 (hit.getD ⟨m, q⟩)

end Binary64

end Orchestrator
