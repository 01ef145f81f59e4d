import ReleaseAdvisor.Number.Double

/-!
The fewest decimal digits that read back. A number of double precision stands for an interval of
reals; on the grid of each count of digits only its two neighbours can lie nearest, so the first
grid of which one lies in the interval gives the digits.
-/

namespace ReleaseAdvisor.Double

/-- The reals that round to `mantissa * 2 ^ power`, as numerators over `den`: the lower end, the
number itself and the upper end. The ends belong to it if the mantissa is even. -/
structure Interval where
  low : Nat
  mid : Nat
  high : Nat
  den : Nat
  closed : Bool

def interval (mantissa : Nat) (power : Int) : Interval :=
  let atBinade := mantissa = 0x10000000000000 ∧ power > leastPower
  let low := if atBinade then 4 * mantissa - 1 else 4 * mantissa - 2
  let scale := if power < 2 then 1 else Nat.pow 2 (power - 2).toNat
  let den := if power < 2 then Nat.pow 2 (2 - power).toNat else 1
  ⟨low * scale, 4 * mantissa * scale, (4 * mantissa + 2) * scale, den, mantissa % 2 = 0⟩

def Interval.holds (i : Interval) (digits : Nat) (exponent : Int) : Bool :=
  let value := digits * Nat.pow 10 exponent.toNat * i.den
  let scale := Nat.pow 10 (-exponent).toNat
  if i.closed then i.low * scale ≤ value && value ≤ i.high * scale
  else i.low * scale < value && value < i.high * scale

def Interval.floorAt (i : Interval) (exponent : Int) : Nat :=
  i.mid * Nat.pow 10 (-exponent).toNat / (i.den * Nat.pow 10 exponent.toNat)

/-- The nearer of the two grid neighbours that lie in the interval, the even one at a tie. -/
def Interval.pick? (i : Interval) (exponent : Int) : Option Nat :=
  let down := i.floorAt exponent
  let up := down + 1
  match i.holds down exponent && down ≠ 0, i.holds up exponent with
  | false, false => none
  | true, false => some down
  | false, true => some up
  | true, true =>
    let twice := 2 * (i.mid * Nat.pow 10 (-exponent).toNat)
    let middle := (down + up) * (i.den * Nat.pow 10 exponent.toNat)
    if twice < middle then some down
    else if middle < twice then some up
    else some (if down % 2 = 0 then down else up)

def decimalSize (num den : Nat) : Nat → Int → Int
  | 0, size => size
  | fuel + 1, size =>
    let tooSmall :=
      if size < 0 then num * Nat.pow 10 (-size).toNat ≥ den
      else num ≥ den * Nat.pow 10 size.toNat
    if tooSmall then decimalSize num den fuel (size + 1) else size

def Interval.search (i : Interval) : Nat → Int → Nat × Int
  | 0, exponent => (i.floorAt exponent, exponent)
  | count + 1, exponent =>
    match i.pick? exponent with
    | some digits => (digits, exponent)
    | none => i.search count (exponent - 1)

def dropZeros : Nat → Nat × Int → Nat × Int
  | 0, d => d
  | fuel + 1, (digits, exponent) =>
    if digits % 10 = 0 then dropZeros fuel (digits / 10, exponent + 1) else (digits, exponent)

def shortest (mantissa : Nat) (power : Int) : Nat × Int :=
  let i := interval mantissa power
  let start : Int := ((mantissa.log2 : Int) + power) * 3 / 10 - 2
  let size := decimalSize i.mid i.den 12 start
  dropZeros 20 (i.search 17 (size - 1))

/-- The text of a number: positional from a ten-thousandth to below `10 ^ 16`, with at least one
digit on each side of the point, and else with an exponent of a sign and at least two digits. -/
def text : Double → String
  | .nan => "nan"
  | .infinite negative => if negative then "-inf" else "inf"
  | .finite negative 0 _ => if negative then "-0.0" else "0.0"
  | .finite negative mantissa power =>
    let (digits, exponent) := shortest mantissa power
    let ds := (toString digits).toList
    let point : Int := ds.length + exponent
    let body :=
      if -4 < point ∧ point ≤ 16 then
        if point ≤ 0 then '0' :: '.' :: (List.replicate (-point).toNat '0' ++ ds)
        else
          let whole := ds.take point.toNat
          let fraction := ds.drop point.toNat
          whole ++ List.replicate (point.toNat - ds.length) '0' ++
            '.' :: (if fraction.isEmpty then ['0'] else fraction)
      else
        let e := point - 1
        let eDigits := (toString e.natAbs).toList
        let mark := if e < 0 then '-' else '+'
        let fraction := ds.drop 1
        ds.take 1 ++ (if fraction.isEmpty then [] else '.' :: fraction) ++
          'e' :: mark :: (if eDigits.length < 2 then '0' :: eDigits else eDigits)
    String.ofList ((if negative then ['-'] else []) ++ body)

end ReleaseAdvisor.Double
