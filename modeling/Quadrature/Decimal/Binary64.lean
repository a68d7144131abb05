/-!
Decimal numerals and the binary fractions they are rounded to. A binary fraction has a significand of
at most 53 bits and an exponent of at least -1074; a decimal goes to the nearest one, and a decimal
halfway between two goes to the one with the even significand.
-/

namespace Quadrature

/-- Powers are those of the core library, also where another one is imported that has its own. -/
@[default_instance 20000]
instance (priority := 2000) natPow : Pow Nat Nat := instPowNat

/-- A decimal numeral: `digits * 10 ^ exponent`, negated when `negative`. -/
structure Decimal where
  negative : Bool
  digits : Nat
  exponent : Int
deriving Repr, DecidableEq

/-- A binary fraction: `significand * 2 ^ exponent`, negated when `negative`. -/
structure Binary64 where
  negative : Bool
  significand : Nat
  exponent : Int
deriving Repr, DecidableEq

namespace Binary64

def zero (negative : Bool) : Binary64 := ⟨negative, 0, -1074⟩

/-- The quotient rounded to the nearest whole number, a half to the even one. -/
def roundDiv (num den : Nat) : Nat :=
  let q := num / den
  let r := 2 * (num % den)
  if r < den then q else if den < r then q + 1 else q + q % 2

/-- The whole part of the base-two logarithm of a quotient of positive numbers. -/
def logRatio (num den : Nat) : Int :=
  let e : Int := (num.log2 : Int) - (den.log2 : Int)
  if den * 2 ^ e.toNat ≤ num * 2 ^ (-e).toNat then e else e - 1

def ofRatio (negative : Bool) (num den : Nat) : Option Binary64 :=
  let e : Int := max (logRatio num den) (-1022) - 52
  let m := roundDiv (num * 2 ^ (-e).toNat) (den * 2 ^ e.toNat)
  let b : Binary64 :=
    if m = 2 ^ 53 then ⟨negative, 2 ^ 52, e + 1⟩ else ⟨negative, m, e⟩
  if b.exponent > 971 then none else some b

end Binary64

def digitCount (n : Nat) : Nat := (Nat.toDigits 10 n).length

/--
The binary fraction nearest to a decimal. Numerals far outside the range are settled by their size,
so that no power of an absurd exponent is formed.
-/
def Decimal.toBinary64? (d : Decimal) : Option Binary64 :=
  if d.digits = 0 then some (.zero d.negative)
  else
    let size : Int := (digitCount d.digits : Int) + d.exponent
    if size > 400 then none
    else if size < -400 then some (.zero d.negative)
    else
      Binary64.ofRatio d.negative (d.digits * 10 ^ d.exponent.toNat)
        (10 ^ (-d.exponent).toNat)

end Quadrature
