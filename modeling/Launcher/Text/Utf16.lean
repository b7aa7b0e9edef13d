/-!
# UTF-16 labels

The VM hands out text as 16-bit units that end at the first zero unit.

- `untilZero`: the units of such a text.
- `decode`: their text; surrogates that stand alone read as one U+FFFD each.
- `encode`: the units of a text.
-/

namespace Launcher.Text.Utf16

/-- The character an unpaired surrogate reads as. -/
def replacement : Char := '\uFFFD'

/-- A unit that begins a pair. -/
def isHigh (u : UInt16) : Bool := 0xD800 ≤ u && u ≤ 0xDBFF

/-- A unit that ends a pair. -/
def isLow (u : UInt16) : Bool := 0xDC00 ≤ u && u ≤ 0xDFFF

/-- The character that a pair of units stands for. -/
def pair (high low : UInt16) : Char :=
  Char.ofNat (0x10000 + (high.toNat - 0xD800) * 1024 + (low.toNat - 0xDC00))

/-- What a unit does between characters: the characters it completes and the high surrogate that
waits for its partner. -/
def enter (u : UInt16) : List Char × Option UInt16 :=
  if isHigh u then ([], some u)
  else if isLow u then ([replacement], none)
  else ([Char.ofNat u.toNat], none)

/-- One unit. -/
def step : Option UInt16 → UInt16 → List Char × Option UInt16
  | none, u => enter u
  | some high, u =>
    if isLow u then ([pair high u], none)
    else (replacement :: (enter u).1, (enter u).2)

/-- The characters of units, with a high surrogate possibly waiting. -/
def decodeFrom : Option UInt16 → List UInt16 → List Char
  | none, [] => []
  | some _, [] => [replacement]
  | state, u :: us => (step state u).1 ++ decodeFrom (step state u).2 us

/-- The text of units. -/
def decode (units : List UInt16) : String := String.ofList (decodeFrom none units)

/-- The units before the first zero unit. -/
def untilZero (units : List UInt16) : List UInt16 := units.takeWhile (· != 0)

/-- The units of one character. -/
def encodeChar (c : Char) : List UInt16 :=
  let n := c.toNat
  if n < 0x10000 then [UInt16.ofNat n]
  else [UInt16.ofNat (0xD800 + (n - 0x10000) / 1024), UInt16.ofNat (0xDC00 + (n - 0x10000) % 1024)]

/-- The units of a text. -/
def encode (s : String) : List UInt16 := s.toList.flatMap encodeChar

end Launcher.Text.Utf16
