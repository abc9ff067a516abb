import ClientSynth.Text.Class
import ClientSynth.Url.Address

/-!
# Absolute URLs

`Url.isAbsolute` tells whether a text has a scheme and an authority. Blanks and control characters
at its front do not count, nor do tabs and line breaks anywhere.
-/

namespace ClientSynth.Url

/-- A character that a scheme may go on with. -/
def isSchemePart (c : Char) : Bool :=
  c.isAlphanum || c == '+' || c == '-' || c == '.'

/-- Whether a text is a scheme. -/
def isScheme : List Char → Bool
  | [] => false
  | c :: rest => c.isAlpha && rest.all isSchemePart

/-- Whether a character ends an authority. -/
def endsAuthority (c : Char) : Bool :=
  c == '/' || c == '?' || c == '#'

/-- Whether a text is an address of a later version: `v`, hexadecimal digits, a point and more. -/
def isLaterVersion (text : List Char) : Bool :=
  match text with
  | 'v' :: rest =>
    let digits := rest.takeWhile isHexDigit
    let after := rest.dropWhile isHexDigit
    !digits.isEmpty && after.head? == some '.' && 2 ≤ after.length
  | _ => false

/-- Whether a text may stand between brackets as a host. -/
def isBracketedHost (text : List Char) : Bool :=
  if text.head? == some 'v' then isLaterVersion text else isVersion6 text

/-- What follows the last of a character in a text, or the whole text. -/
def afterLast (mark : Char) (text : List Char) : List Char :=
  (text.reverse.takeWhile (· != mark)).reverse

/-- Whether the host of an authority with brackets is an address, with nothing before the brackets
and nothing or a colon right after them. -/
def hasAddress (authority : List Char) : Bool :=
  let host := afterLast '@' authority
  match host.dropWhile (· != '[') with
  | [] => isBracketedHost (host.takeWhile (· != ':'))
  | _ :: bracketed =>
    let after := (bracketed.dropWhile (· != ']')).drop 1
    host.head? == some '[' && (after.isEmpty || after.head? == some ':') &&
      isBracketedHost (bracketed.takeWhile (· != ']'))

/-- Whether the brackets of an authority are in order: there are none, or there are both and they
hold an address. -/
def areBracketsInOrder (authority : List Char) : Bool :=
  match authority.contains '[', authority.contains ']' with
  | false, false => true
  | true, true => hasAddress authority
  | _, _ => false

/-- Whether a text is an authority. No character may stand for a delimiter in disguise. -/
def isAuthority (text : List Char) : Bool :=
  !text.isEmpty && areBracketsInOrder text && !text.any Text.isDisguisedDelimiter

/-- The characters of a text that count. -/
def counted (text : List Char) : List Char :=
  (text.dropWhile fun c => c.toNat ≤ 0x20).filter fun c => c != '\t' && c != '\n' && c != '\r'

/-- Whether a URL has a scheme and an authority. -/
def isAbsolute (text : List Char) : Bool :=
  let url := counted text
  match url.dropWhile (· != ':') with
  | ':' :: '/' :: '/' :: rest =>
    isScheme (url.takeWhile (· != ':')) && isAuthority (rest.takeWhile fun c => !endsAuthority c)
  | _ => false

end ClientSynth.Url
