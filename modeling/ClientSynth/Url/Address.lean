import ClientSynth.Text.Basic

/-!
# Numeric addresses

Which texts are addresses of version 4, four numbers up to 255, and of version 6, eight groups of
hexadecimal digits of which one run may be left out.
-/

namespace ClientSynth.Url

/-- Whether a text is a number up to 255 without leading zeros. -/
def isOctet (text : List Char) : Bool :=
  !text.isEmpty && text.all Char.isDigit && text.length ≤ 3 &&
    (text.length == 1 || text.head? != some '0') && Text.natOfDigits text ≤ 255

/-- Whether a text is an address of version 4. -/
def isVersion4 (text : List Char) : Bool :=
  let octets := Text.splitAt '.' text
  octets.length == 4 && octets.all isOctet

/-- Whether a character is a hexadecimal digit. -/
def isHexDigit (c : Char) : Bool :=
  c.isDigit || ('a' ≤ c && c ≤ 'f') || ('A' ≤ c && c ≤ 'F')

/-- Whether a text is a group of an address of version 6. -/
def isGroup (text : List Char) : Bool :=
  !text.isEmpty && text.length ≤ 4 && text.all isHexDigit

/-- The groups of an address, with two groups in place of an address of version 4 at its end. -/
def wholeGroups? (groups : List (List Char)) : Option (List (List Char)) :=
  match groups.getLast? with
  | none => none
  | some last =>
    if last.contains '.' then
      if isVersion4 last then some (groups.dropLast ++ [['0'], ['0']]) else none
    else some groups

/-- Whether groups around a run that is left out are those of an address. An empty group stands at
an end only beside the run. -/
def isShortened (before after : List (List Char)) : Bool :=
  let front := if before.head? == some [] then before.tail else before
  let back := if after.getLast? == some [] then after.dropLast else after
  (front.length == before.length || front.isEmpty) &&
    (back.length == after.length || back.isEmpty) &&
    front.length + back.length ≤ 7 && front.all isGroup && back.all isGroup

/-- Whether groups are those of an address. -/
def areGroups (groups : List (List Char)) : Bool :=
  -- An empty group in the middle marks the run that is left out.
  let middle := (groups.drop 1).dropLast
  match middle.count [] with
  | 0 => groups.length == 8 && groups.all isGroup
  | 1 =>
    let cut := middle.findIdx (·.isEmpty) + 1
    groups.length ≤ 9 && isShortened (groups.take cut) (groups.drop (cut + 1))
  | _ => false

/-- Whether a text is an address of version 6, with a zone after a percent sign or without one. -/
def isVersion6 (text : List Char) : Bool :=
  let zoneOk := match text.dropWhile (· != '%') with
    | [] => true
    | _ :: zone => !zone.isEmpty && !zone.contains '%'
  let groups := Text.splitAt ':' (text.takeWhile (· != '%'))
  !text.contains '/' && zoneOk && 3 ≤ groups.length && (wholeGroups? groups).any areGroups

end ClientSynth.Url
