import ClientSynth.Binary64.Basic
import ClientSynth.Text.Basic

/-!
# Doubles in texts

`Binary64.ofText?` reads a number: a sign, and then digits with or without a point and an exponent,
or one of the words for infinity and for what is not a number.
-/

namespace ClientSynth.Binary64

/-- The words for sizes that no digits write. -/
def ofWord? (text : List Char) : Option Binary64 :=
  let word := String.ofList (text.map Char.toLower)
  if word = "inf" ∨ word = "infinity" then some (infinity false)
  else if word = "nan" then some nan
  else none

/-- The exponent of a number after its mark. -/
def exponent? (text : List Char) : Option Int :=
  let (negative, digits) := Text.signed text
  if !Text.isNumeral digits then none
  else
    let size : Int := Text.natOfDigits digits
    some (if negative then -size else size)

/-- The digits of a number before its exponent, and how many of them follow the point. At least one
digit stands on one of its sides. -/
def mantissa? (text : List Char) : Option (List Char × Nat) :=
  let whole := text.takeWhile (· != '.')
  let fraction := (text.dropWhile (· != '.')).drop 1
  if Text.isNumeral (whole ++ fraction) then some (whole ++ fraction, fraction.length) else none

/-- The size of the number that a text without a sign writes, with a sign put to it. -/
def ofSize? (negative : Bool) (text : List Char) : Option Binary64 :=
  match ofWord? text with
  | some x => some (if negative && !x.isNaN then x.neg else x)
  | none =>
    let isMark := fun (c : Char) => c == 'e' || c == 'E'
    let mantissa := mantissa? (text.takeWhile fun c => !isMark c)
    let exponent := match text.dropWhile fun c => !isMark c with
      | [] => some 0
      | _ :: rest => exponent? rest
    match mantissa, exponent with
    | some (digits, places), some exponent =>
      some (ofDecimal negative (Text.natOfDigits digits) (exponent - places))
    | _, _ => none

/-- The double nearest to the number that a text writes. -/
def ofText? (text : List Char) : Option Binary64 :=
  let (negative, size) := Text.signed text
  ofSize? negative size

end ClientSynth.Binary64
