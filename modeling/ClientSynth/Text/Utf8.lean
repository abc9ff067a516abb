import ClientSynth.Text.Basic

/-!
# Text in UTF-8

`Utf8.decode` reads bytes as text. A fault tells which bytes are no text and why: a byte that starts
no character, a byte where a character has to go on, or the end of the bytes inside a character.
-/

namespace ClientSynth.Utf8

/-- Why bytes are no text. -/
inductive Problem where
  | start
  | continuation
  | ending
  deriving DecidableEq

/-- Bytes that are no text. -/
structure Fault where
  problem : Problem
  position : Nat
  /-- The first of the bytes. -/
  byte : UInt8
  /-- The number of the bytes. -/
  count : Nat
  deriving DecidableEq

/-- What a first byte tells of a character. -/
structure Lead where
  /-- The bits of the character in this byte. -/
  bits : Nat
  /-- The number of bytes that follow. -/
  count : Nat
  /-- The least and greatest byte that may come next. -/
  least : Nat
  greatest : Nat

/-- What a byte tells of a character that it starts. Bytes next to it are bounded so that no
character is written too long, none is a surrogate, and none lies beyond the last plane. -/
def lead? (b : Nat) : Option Lead :=
  if b < 0x80 then some ⟨b, 0, 0x80, 0xBF⟩
  else if b < 0xC2 then none
  else if b < 0xE0 then some ⟨b - 0xC0, 1, 0x80, 0xBF⟩
  else if b < 0xF0 then
    some ⟨b - 0xE0, 2, if b = 0xE0 then 0xA0 else 0x80, if b = 0xED then 0x9F else 0xBF⟩
  else if b < 0xF5 then
    some ⟨b - 0xF0, 3, if b = 0xF0 then 0x90 else 0x80, if b = 0xF4 then 0x8F else 0xBF⟩
  else none

/-- The bytes that go on with a character, of those that follow its first byte. -/
def Lead.continuation (lead : Lead) : List UInt8 → List UInt8
  | [] => []
  | b :: rest =>
    if lead.count = 0 ∨ b.toNat < lead.least ∨ lead.greatest < b.toNat then []
    else b :: ((rest.take (lead.count - 1)).takeWhile fun b => 0x80 ≤ b.toNat && b.toNat ≤ 0xBF)

/-- The character of a first byte and the bytes that go on with it. -/
def Lead.char (lead : Lead) (later : List UInt8) : Char :=
  Char.ofNat (later.foldl (fun n b => n * 64 + b.toNat % 64) lead.bits)

/-- The text of bytes that start at a position. -/
def decodeFrom (position : Nat) : List UInt8 → Except Fault (List Char)
  | [] => .ok []
  | b :: rest =>
    match lead? b.toNat with
    | none => .error ⟨.start, position, b, 1⟩
    | some lead =>
      let later := lead.continuation rest
      let size := later.length + 1
      if later.length = lead.count then
        (decodeFrom (position + size) (rest.drop later.length)).map (lead.char later :: ·)
      else if later.length = rest.length then .error ⟨.ending, position, b, size⟩
      else .error ⟨.continuation, position, b, size⟩
termination_by bytes => bytes.length
decreasing_by simp only [List.length_drop, List.length_cons]; omega

/-- The text of bytes. -/
def decode (bytes : List UInt8) : Except Fault (List Char) :=
  decodeFrom 0 bytes

/-- The bytes of a text. -/
def encode (s : String) : List UInt8 :=
  s.toUTF8.toList

/-- The text of a problem. -/
def Problem.message : Problem → String
  | .start => "invalid start byte"
  | .continuation => "invalid continuation byte"
  | .ending => "unexpected end of data"

/-- The text of a fault. -/
def Fault.message (f : Fault) : String :=
  let digits := Nat.toDigits 16 f.byte.toNat
  let place :=
    if f.count = 1 then
      "byte 0x" ++ String.ofList (List.replicate (2 - digits.length) '0' ++ digits) ++
        " in position " ++ Text.ofNat f.position
    else
      "bytes in position " ++ Text.ofNat f.position ++ "-" ++
        Text.ofNat (f.position + f.count - 1)
  "'utf-8' codec can't decode " ++ place ++ ": " ++ f.problem.message

end ClientSynth.Utf8
