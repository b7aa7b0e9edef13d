/-!
# UTF-8, written exactly and read leniently

Paths, library messages and the text a diagnostics writer has accepted are octets that need not
form valid UTF-8. Showing them puts one U+FFFD in place of every maximal ill-formed prefix.

- `encode`: the octets of a text.
- `decode`: the text that octets are shown as.
- `decode?`: the text that octets spell, when they are well formed.
-/

namespace Launcher.Text.Utf8

/-- The character shown where octets spell none. -/
def replacement : Char := '\uFFFD'

/-- A continuation octet that carries the six low bits of `n`. -/
def tailOctet (n : Nat) : UInt8 := UInt8.ofNat (0x80 + n % 64)

/-- The octets of one character. -/
def encodeChar (c : Char) : List UInt8 :=
  let n := c.toNat
  if n < 0x80 then [UInt8.ofNat n]
  else if n < 0x800 then [UInt8.ofNat (0xC0 + n / 64), tailOctet n]
  else if n < 0x10000 then [UInt8.ofNat (0xE0 + n / 4096), tailOctet (n / 64), tailOctet n]
  else [UInt8.ofNat (0xF0 + n / 262144), tailOctet (n / 4096), tailOctet (n / 64), tailOctet n]

/-- The octets of a text. -/
def encode (s : String) : List UInt8 := s.toList.flatMap encodeChar

/-- A character that has begun: how many octets it still needs, the range the next one has to lie
in, and the bits collected so far. -/
structure Pending where
  owed : Nat
  low : Nat
  high : Nat
  bits : Nat
  deriving DecidableEq

/-- What an octet does between characters: the characters it completes and the one it begins. A
first octet narrows the range of the second where overlong forms, surrogates or values above
U+10FFFF would follow. -/
def enter (b : Nat) : List Char × Option Pending :=
  if b < 0x80 then ([Char.ofNat b], none)
  else if b < 0xC2 then ([replacement], none)
  else if b < 0xE0 then ([], some ⟨1, 0x80, 0xBF, b - 0xC0⟩)
  else if b < 0xF0 then
    ([], some ⟨2, if b = 0xE0 then 0xA0 else 0x80, if b = 0xED then 0x9F else 0xBF, b - 0xE0⟩)
  else if b < 0xF5 then
    ([], some ⟨3, if b = 0xF0 then 0x90 else 0x80, if b = 0xF4 then 0x8F else 0xBF, b - 0xF0⟩)
  else ([replacement], none)

/-- One octet. An octet that cannot continue the pending character ends it as ill-formed and is
then read anew. -/
def step : Option Pending → Nat → List Char × Option Pending
  | none, b => enter b
  | some p, b =>
    if p.low ≤ b ∧ b ≤ p.high then
      let bits := p.bits * 64 + (b - 0x80)
      if p.owed ≤ 1 then ([Char.ofNat bits], none)
      else ([], some ⟨p.owed - 1, 0x80, 0xBF, bits⟩)
    else (replacement :: (enter b).1, (enter b).2)

/-- The characters that octets are shown as, from a given point inside a character. -/
def decodeFrom : Option Pending → List UInt8 → List Char
  | none, [] => []
  | some _, [] => [replacement]
  | state, b :: bs => (step state b.toNat).1 ++ decodeFrom (step state b.toNat).2 bs

/-- The text that octets are shown as. -/
def decode (bytes : List UInt8) : String := String.ofList (decodeFrom none bytes)

/-- The text that octets spell, or nothing when they are ill-formed: exactly the well-formed
sequences come back when what they are shown as is written again. -/
def decode? (bytes : List UInt8) : Option String :=
  if encode (decode bytes) = bytes then some (decode bytes) else none

end Launcher.Text.Utf8
