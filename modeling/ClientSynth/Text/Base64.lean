/-!
# Bytes in base 64

`base64?` reads bytes that are written with 64 characters for six bits each. Other characters are
skipped, and a group that padding fills up to four ends the text.
-/

namespace ClientSynth.Text

/-- The six bits that a character writes. -/
def sextet? (c : Char) : Option Nat :=
  if 'A' ≤ c ∧ c ≤ 'Z' then some (c.toNat - 'A'.toNat)
  else if 'a' ≤ c ∧ c ≤ 'z' then some (c.toNat - 'a'.toNat + 26)
  else if c.isDigit then some (c.toNat - '0'.toNat + 52)
  else if c = '+' then some 62
  else if c = '/' then some 63
  else none

/-- The sextets of a text, up to the padding that completes a group. `count` sextets of the present
group were read, and `pads` marks of padding since the last of them. The text has to end with a
complete group. -/
def sextets? (count pads : Nat) : List Char → Option (List Nat)
  | [] => if count = 0 then some [] else none
  | c :: rest =>
    if c = '=' then
      if count < 2 then sextets? count pads rest
      else if 4 ≤ count + pads + 1 then some []
      else sextets? count (pads + 1) rest
    else match sextet? c with
      | none => sextets? count pads rest
      | some n => (sextets? ((count + 1) % 4) 0 rest).map (n :: ·)

/-- The bytes of sextets; bits of a last group that fill no byte are dropped. -/
def bytesOfSextets : List Nat → List UInt8
  | a :: b :: c :: d :: rest =>
    UInt8.ofNat (a * 4 + b / 16) :: UInt8.ofNat (b % 16 * 16 + c / 4) ::
      UInt8.ofNat (c % 4 * 64 + d) :: bytesOfSextets rest
  | [a, b, c] => [UInt8.ofNat (a * 4 + b / 16), UInt8.ofNat (b % 16 * 16 + c / 4)]
  | [a, b] => [UInt8.ofNat (a * 4 + b / 16)]
  | _ => []

/-- The bytes that a text writes. -/
def base64? (text : List Char) : Option (List UInt8) :=
  (sextets? 0 0 text).map bytesOfSextets

end ClientSynth.Text
