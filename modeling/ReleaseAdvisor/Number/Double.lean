/-!
Numbers of double precision as what they are: a natural number of at most 53 bits times a power of
two, in the one form that keeps as many bits as there are. A decimal number becomes the nearest of
them, of two equally near the one with an even mantissa.
-/

namespace ReleaseAdvisor

/-- A number of double precision. A finite one is `mantissa * 2 ^ power`, with a mantissa below
`2 ^ 53` and, unless the power is the least one, at least `2 ^ 52`. -/
inductive Double where
  | nan
  | infinite (negative : Bool)
  | finite (negative : Bool) (mantissa : Nat) (power : Int)
  deriving DecidableEq, Repr

namespace Double

def leastPower : Int := -1074

def mantissaBound : Nat := 0x20000000000000

def greatestPower : Int := 971

/-- The quotient rounded to the nearest natural number, a half to the even neighbour. -/
def roundQuotient (num den : Nat) : Nat :=
  let quotient := num / den
  let twice := 2 * (num % den)
  if twice < den then quotient
  else if den < twice then quotient + 1
  else quotient + quotient % 2

def inUnits (num den : Nat) (power : Int) : Nat :=
  if power < 0 then roundQuotient (num * Nat.pow 2 (-power).toNat) den
  else roundQuotient num (den * Nat.pow 2 power.toNat)

def ofQuotient (negative : Bool) (num den : Nat) : Double :=
  if num = 0 then .finite negative 0 leastPower
  else
    let guess : Int := (num.log2 : Int) - (den.log2 : Int) - 53
    let settle (power : Int) : Int × Nat := (power, inUnits num den power)
    let (power, mantissa) := settle (max guess leastPower)
    let (power, mantissa) :=
      if mantissa < mantissaBound then (power, mantissa) else settle (power + 1)
    let (power, mantissa) :=
      if mantissa < mantissaBound then (power, mantissa) else settle (power + 1)
    if power > greatestPower then .infinite negative else .finite negative mantissa power

/-- The nearest number to `digits * 10 ^ exponent`. Exponents far out of range are not computed. -/
def ofDecimal (negative : Bool) (digits : Nat) (exponent : Int) : Double :=
  let size : Int := exponent + (digits.log2 / 3 : Nat)
  if digits = 0 then .finite negative 0 leastPower
  else if exponent > 400 then .infinite negative
  else if size < -400 then .finite negative 0 leastPower
  else if exponent < 0 then ofQuotient negative digits (Nat.pow 10 (-exponent).toNat)
  else ofQuotient negative (digits * Nat.pow 10 exponent.toNat) 1

def isInt (x : Double) (n : Int) : Bool :=
  match x with
  | .nan | .infinite _ => false
  | .finite negative mantissa power =>
    (negative == decide (n < 0) || n == 0) &&
      (if power < 0 then mantissa == n.natAbs * Nat.pow 2 (-power).toNat
        else mantissa * Nat.pow 2 power.toNat == n.natAbs)

def same (x y : Double) : Bool :=
  match x, y with
  | .nan, _ | _, .nan => false
  | .finite _ 0 _, .finite _ 0 _ => true
  | x, y => x == y

def isZero : Double → Bool
  | .finite _ 0 _ => true
  | _ => false

end Double
end ReleaseAdvisor
