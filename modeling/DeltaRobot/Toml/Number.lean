import DeltaRobot.Scalar.Binary64

/-!
Contract: what the digits of a TOML number are worth.

Integers are decimal with a sign, or hexadecimal, octal or binary behind a mark, and fit 64 bits.
Real numbers have a fraction, an exponent or both, and are finite. A single underscore may stand
between two digits anywhere.

Owns: runs of digits, integers and finite real numbers.
Does not own: which tokens make up a number.
-/

namespace DeltaRobot.Toml.Number

/-- A run of digits with the sign in front of it and what follows it. -/
structure Run where
  negative : Bool
  digits : List Char
  rest : List Char

def isDigitOf (radix : Nat) (char : Char) : Bool :=
  if char.isDigit then char.toNat - '0'.toNat < radix
  else radix = 16 && (('a' ≤ char && char ≤ 'f') || ('A' ≤ char && char ≤ 'F'))

/-- How far a run of digits has come. -/
structure RunState where
  first : Bool
  leadingZero : Bool
  afterUnderscore : Bool

/-- Reads digits without their underscores. A zero in front of another digit is refused, unless
leading zeros are allowed. -/
def digits? (radix : Nat) (leadingZeros : Bool) :
    RunState → List Char → Option (List Char × List Char)
  | state, [] => if state.first || state.afterUnderscore then none else some ([], [])
  | state, char :: rest =>
      if isDigitOf radix char then
        if !state.first && state.leadingZero && !leadingZeros then none
        else
          (digits? radix leadingZeros
            { first := false
              leadingZero := if state.first then char = '0' else state.leadingZero
              afterUnderscore := false } rest).map (fun found => (char :: found.1, found.2))
      else if state.first then none
      else if char = '_' && !state.afterUnderscore then
        digits? radix leadingZeros { state with afterUnderscore := true } rest
      else if state.afterUnderscore then none
      else some ([], char :: rest)

/-- Reads a run of digits, behind a sign if one is allowed. -/
def run? (radix : Nat) (signed leadingZeros : Bool) (chars : List Char) : Option Run :=
  let fresh : RunState := ⟨true, false, false⟩
  match chars with
  | '-' :: rest =>
      if signed then
        (digits? radix leadingZeros fresh rest).map (fun found => ⟨true, found.1, found.2⟩)
      else none
  | _ => (digits? radix leadingZeros fresh chars).map (fun found => ⟨false, found.1, found.2⟩)

def digitValue (char : Char) : Nat :=
  if char.isDigit then char.toNat - '0'.toNat
  else if 'a' ≤ char then char.toNat - 'a'.toNat + 10
  else char.toNat - 'A'.toNat + 10

def ofDigits (radix : Nat) (digits : List Char) : Nat :=
  digits.foldl (fun value digit => value * radix + digitValue digit) 0

/-- The integer of a whole word, if 64 bits hold it. -/
def integerOf? (radix : Nat) (chars : List Char) : Option Int := do
  let run ← run? radix (radix = 10) (radix ≠ 10) chars
  let size : Int := ofDigits radix run.digits
  let value := if run.negative then -size else size
  if run.rest.isEmpty ∧ -Int.pow 2 63 ≤ value ∧ value < Int.pow 2 63 then some value else none

def integer? (chars : List Char) : Option Int :=
  match chars with
  | '0' :: 'x' :: digits => integerOf? 16 digits
  | '0' :: 'o' :: digits => integerOf? 8 digits
  | '0' :: 'b' :: digits => integerOf? 2 digits
  | _ => integerOf? 10 chars

/-- No finite number has a first digit above this power of ten, and none but zero one below the
opposite power. -/
def exponentBound : Int := 400

/-- The finite number of a decimal. -/
def decimal? (negative : Bool) (whole fraction : List Char) (exponent : Int) : Option Float :=
  let significand := ofDigits 10 (whole ++ fraction)
  let lowest : Int := exponent - fraction.length
  let highest : Int := lowest + (Nat.toDigits 10 significand).length
  let size : Option Float :=
    if significand = 0 ∨ highest < -exponentBound then some 0
    else if exponentBound < highest then none
    else if 0 ≤ lowest then some (Float.ofScientific significand false lowest.toNat)
    else some (Float.ofScientific significand true (-lowest).toNat)
  match size with
  | some size => if size.isFinite then some (if negative then -size else size) else none
  | none => none

end DeltaRobot.Toml.Number
