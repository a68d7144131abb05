import Quadrature.Decimal.Binary64

/-!
The shortest decimal that reads back as a given binary fraction. Grids of one, two, up to seventeen
digits are tried in turn; on each the two neighbours of the value are tested against the interval of
numbers that round to it, whose ends belong to it when the significand is even.
-/

namespace Quadrature.Binary64

structure Interval where
  low : Nat
  value : Nat
  high : Nat
  denominator : Nat
  closed : Bool

/-- The interval of a nonzero fraction. Below a power of two the gap is half as wide. -/
def interval (b : Binary64) : Interval :=
  let e := b.exponent - 2
  let p := 2 ^ e.toNat
  let gap := if b.significand = 2 ^ 52 ∧ b.exponent > -1074 then 1 else 2
  { low := (4 * b.significand - gap) * p
    value := 4 * b.significand * p
    high := (4 * b.significand + 2) * p
    denominator := 2 ^ (-e).toNat
    closed := b.significand % 2 = 0 }

def Interval.magnitude (i : Interval) : Int :=
  let e : Int := (digitCount i.value : Int) - (digitCount i.denominator : Int)
  if i.denominator * 10 ^ e.toNat ≤ i.value * 10 ^ (-e).toNat then e else e - 1

def Interval.nearest? (i : Interval) (k : Int) : Option Nat :=
  let step := i.denominator * 10 ^ k.toNat
  let scale := 10 ^ (-k).toNat
  let inside := fun c =>
    if i.closed then i.low * scale ≤ c * step && c * step ≤ i.high * scale
    else i.low * scale < c * step && c * step < i.high * scale
  let below := i.value * scale / step
  let near := roundDiv (i.value * scale) step
  let other := if near = below then below + 1 else below
  if inside near then some near else if inside other then some other else none

def Interval.search (i : Interval) (e : Int) : Nat → Nat → Nat × Int
  | 0, _ => (i.value / i.denominator, 0)
  | fuel + 1, n =>
    let k := e + 1 - (n : Int)
    match i.nearest? k with
    | some c => (c, k)
    | none => i.search e fuel (n + 1)

/-- The shortest decimal of a fraction; zero is `0`. A neighbour that is the next power of ten has a
zero to drop. -/
def shortest (b : Binary64) : Decimal :=
  if b.significand = 0 then ⟨b.negative, 0, 0⟩
  else
    let i := b.interval
    let (c, k) := i.search i.magnitude 17 1
    if c % 10 = 0 then ⟨b.negative, c / 10, k + 1⟩ else ⟨b.negative, c, k⟩

end Quadrature.Binary64
