import ClientSynth.Binary64.Basic
import ClientSynth.Text.Basic

/-!
# Shortest decimal text of a double

`shortest` finds the decimal with the fewest digits that reads back as the double, the nearest one
among those. `Binary64.text` writes it: positionally while its decimal exponent is from `-4` to
`15`, and with an exponent of at least two digits otherwise.
-/

namespace ClientSynth.Binary64

/-- A decimal `digits * 10 ^ exponent`. -/
structure Decimal where
  digits : Nat
  exponent : Int
  deriving DecidableEq

/-- A positive finite double in units of a quarter of its last place: the value, the ends of the
interval of numbers that round to it, whether the ends do, and the unit as a quotient. -/
structure Neighbourhood where
  value : Nat
  low : Nat
  high : Nat
  closed : Bool
  unitNum : Nat
  unitDen : Nat

/-- The neighbourhood of a positive finite double. The gap below a power of two is half as wide. -/
def neighbourhood (x : Binary64) : Neighbourhood where
  value := 4 * x.significand
  low := if x.fraction = 0 ∧ 1 < x.biased then 4 * x.significand - 1 else 4 * x.significand - 2
  high := 4 * x.significand + 2
  closed := x.significand % 2 = 0
  unitNum := twoPow x.scale
  unitDen := twoPow 1076

/-- Whether a multiple of a quotient of powers of ten lies in the interval. -/
def Neighbourhood.holds (n : Neighbourhood) (digits tenNum tenDen : Nat) : Bool :=
  let point := digits * tenNum * n.unitDen
  let low := n.low * n.unitNum * tenDen
  let high := n.high * n.unitNum * tenDen
  if n.closed then low ≤ point && point ≤ high else low < point && point < high

/-- The power of ten of an integer exponent, as a quotient. -/
def powerOfTen (exponent : Int) : Nat × Nat :=
  if exponent ≥ 0 then (tenPow exponent.toNat, 1) else (1, tenPow (-exponent).toNat)

/-- The nearest point in the interval among the two neighbours of the value on the grid of multiples
of a power of ten; the even one when both are equally near. -/
def Neighbourhood.nearest? (n : Neighbourhood) (exponent : Int) : Option Decimal :=
  let (tenNum, tenDen) := powerOfTen exponent
  let value := n.value * n.unitNum * tenDen
  let step := tenNum * n.unitDen
  let below := value / step
  let rest := value % step
  let above := below + 1
  let preferAbove := step < 2 * rest || (2 * rest == step && below % 2 == 1)
  let (first, second) := if preferAbove then (above, below) else (below, above)
  if n.holds first tenNum tenDen then some ⟨first, exponent⟩
  else if n.holds second tenNum tenDen then some ⟨second, exponent⟩
  else none

/-- The first grid from `exponent` down with a point in the interval. -/
def Neighbourhood.search (n : Neighbourhood) (exponent : Int) : Nat → Decimal
  | 0 => ⟨0, 0⟩
  | fuel + 1 => match n.nearest? exponent with
    | some d => d
    | none => n.search (exponent - 1) fuel

/-- A decimal exponent at least as large as that of the first digit, and less than two larger:
`1233 / 4096` is just below the logarithm of two to base ten. -/
def magnitudeBound (x : Binary64) : Int :=
  let binary : Int := (Nat.log2 x.significand : Int) + x.scale - 1074
  if binary ≥ 0 then binary * 1234 / 4096 + 1 else binary * 1233 / 4096 + 1

/-- The shortest decimal of a positive finite double, without zeros at its end. -/
def shortest (x : Binary64) : Decimal :=
  x.neighbourhood.search x.magnitudeBound 24

/-- An exponent with its sign and at least two digits. -/
def exponentText (exponent : Int) : String :=
  (if exponent < 0 then "e-" else "e+") ++ Text.padded 2 exponent.natAbs

/-- A positive decimal as text. -/
def Decimal.text (d : Decimal) : String :=
  let digits := Nat.toDigits 10 d.digits
  let digits := if d.digits = 0 then ['0'] else (digits.reverse.dropWhile (· == '0')).reverse
  let trailing := (Nat.toDigits 10 d.digits).length - digits.length
  let low := d.exponent + trailing
  let count : Int := digits.length
  -- The exponent of the first digit.
  let first := low + count - 1
  if -4 ≤ first ∧ first < 16 then
    if low ≥ 0 then String.ofList (digits ++ List.replicate low.toNat '0') ++ ".0"
    else if first ≥ 0 then
      let whole := (first + 1).toNat
      String.ofList (digits.take whole ++ '.' :: digits.drop whole)
    else
      String.ofList ('0' :: '.' :: List.replicate (-first - 1).toNat '0' ++ digits)
  else
    let fraction := if digits.length ≤ 1 then [] else '.' :: digits.tail
    String.ofList (digits.take 1 ++ fraction) ++ exponentText first

/-- The shortest text that reads back as the double. -/
def text (x : Binary64) : String :=
  if x.isNaN then "nan"
  else
    let magnitude :=
      if !x.isFinite then "inf" else if x.isZero then "0.0" else x.shortest.text
    if x.isNegative then "-" ++ magnitude else magnitude

end ClientSynth.Binary64
