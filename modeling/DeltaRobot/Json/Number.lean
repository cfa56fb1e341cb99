import DeltaRobot.Json.Token
import DeltaRobot.Scalar.Binary64

/-!
Contract: what a JSON numeral is worth.

A numeral without point and exponent is an integer as long as it fits 64 bits. Any other is a
binary64 number: its digits are gathered into a 64-bit significand, further ones only counted or
dropped, and the significand is scaled by one power of ten. A number that would be greater than
every finite one has no worth.

Owns: `Numeral.worth?`.
Does not own: the spelling of numerals.
-/

namespace DeltaRobot.Json

/-- A number of a JSON text. -/
inductive Number where
  | integer (value : Int)
  | real (value : Float)

namespace Number

def toFloat : Number → Float
  | integer value => Binary64.floatOfInt value
  | real value => value

end Number

namespace Numeral

/-- The greatest significand. -/
def maxSignificand : Nat := Nat.pow 2 64 - 1

/-- Appends digits to a significand as long as it fits; the others are left over. -/
def gather : Nat → List Nat → Nat × List Nat
  | significand, [] => (significand, [])
  | significand, digit :: digits =>
      if significand * 10 + digit ≤ maxSignificand then
        gather (significand * 10 + digit) digits
      else (significand, digit :: digits)

/-- The greatest exponent for which a power of ten is finite. -/
def maxExponent : Nat := 308

/-- `size * 10 ^ exponent`, or nothing above the finite numbers. A very small exponent is taken in
several steps, until the number vanishes or the rest is small enough. -/
def scale? (size : Float) (exponent : Int) : Option Float :=
  if exponent.natAbs ≤ maxExponent then
    if 0 ≤ exponent then
      let scaled := size * Float.ofScientific 1 false exponent.natAbs
      if scaled.isInf then none else some scaled
    else some (size / Float.ofScientific 1 false exponent.natAbs)
  else if size == 0 then some size
  else if 0 ≤ exponent then none
  else scale? (size / Float.ofScientific 1 false maxExponent) (exponent + maxExponent)
termination_by (-exponent).toNat
decreasing_by
  simp only [maxExponent] at *
  omega

/-- The value of a run of digits. -/
def ofDigits (digits : List Nat) : Nat :=
  digits.foldl (fun value digit => value * 10 + digit) 0

/-- The significand of a numeral, and the power of ten of its last digit. -/
def parts (numeral : Numeral) : Nat × Int :=
  let whole := gather 0 numeral.whole
  let fraction := numeral.fraction.getD []
  let all := gather whole.1 fraction
  let exponent : Int :=
    match numeral.exponent with
    | none => 0
    | some (true, digits) => -(ofDigits digits)
    | some (false, digits) => ofDigits digits
  (all.1, whole.2.length - (fraction.length - all.2.length) + exponent)

/-- The integer that a numeral without point and exponent spells, if 64 bits hold it. A negative
zero is no integer, since it keeps its sign. -/
def integer? (numeral : Numeral) : Option Int :=
  let whole := gather 0 numeral.whole
  if numeral.fraction.isSome || numeral.exponent.isSome || !whole.2.isEmpty then none
  else if numeral.negative then
    if whole.1 = 0 ∨ Nat.pow 2 63 < whole.1 then none else some (-whole.1)
  else some whole.1

def worth? (numeral : Numeral) : Option Number :=
  match numeral.integer? with
  | some value => some (.integer value)
  | none =>
      let significand := numeral.parts
      (scale? (Float.ofNat significand.1) significand.2).map (fun size =>
        .real (if numeral.negative then -size else size))

end Numeral

namespace TextUnit

/-- The text that a run of units spells; a run that ends in the first half of a surrogate pair
leaves it open. -/
inductive Spelled where
  | whole (chars : List Char)
  /-- The last unit is the first half of a pair. -/
  | halfOpen
  /-- A half of a pair stands alone. -/
  | unpaired

def isLeading (code : Nat) : Bool := 0xD800 ≤ code && code < 0xDC00
def isTrailing (code : Nat) : Bool := 0xDC00 ≤ code && code < 0xE000

/-- The character of a surrogate pair. -/
def pair (leading trailing : Nat) : Char :=
  Char.ofNat (0x10000 + (leading - 0xD800) * 0x400 + (trailing - 0xDC00))

def Spelled.cons (char : Char) : Spelled → Spelled
  | .whole chars => .whole (char :: chars)
  | spelled => spelled

def spell : List TextUnit → Spelled
  | [] => .whole []
  | .plain char :: rest => (spell rest).cons char
  | [.codeUnit code] =>
      if isLeading code then .halfOpen
      else if isTrailing code then .unpaired
      else .whole [Char.ofNat code]
  | .codeUnit code :: .plain char :: rest =>
      if isLeading code || isTrailing code then .unpaired
      else (spell (.plain char :: rest)).cons (Char.ofNat code)
  | .codeUnit code :: .codeUnit next :: rest =>
      if isTrailing code then .unpaired
      else if isLeading code then
        if isTrailing next then (spell rest).cons (pair code next) else .unpaired
      else (spell (.codeUnit next :: rest)).cons (Char.ofNat code)

/-- The text of a run of units that is complete. -/
def spell? (units : List TextUnit) : Option String :=
  match spell units with
  | .whole chars => some (String.ofList chars)
  | _ => none

end TextUnit

end DeltaRobot.Json
