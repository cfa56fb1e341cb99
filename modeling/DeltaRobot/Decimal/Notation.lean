import DeltaRobot.Decimal.Shortest

/-!
Contract: the text forms of a binary64 number.

* `plain` writes the shortest digits that read back, in positional notation whatever the size. Of
  two equally near numbers with as many digits it takes the greater one.
* `fixed` writes a given number of decimal places of the exact value, a tie going to the even
  digit.
* `steady` first rounds to about ten digits, so that the last bits of a library's sine do not
  show.
* `pointed` always has a point. `scientific` has one too, or an exponent where a number is very
  large or very small; it takes the even one of two equally near numbers. `literal` is like it, but
  takes the greater one, turns to exponents sooner and gives them a sign only if they need it.

Owns: every way a number is written.
Does not own: the messages that hold the numbers.
-/

namespace DeltaRobot.Decimal

def notANumberText : String := "NaN"

def infinityText (negative : Bool) : String := if negative then "-inf" else "inf"

def signed (negative : Bool) (digits : List Char) : String :=
  String.ofList (if negative then '-' :: digits else digits)

/-- `digits * 10 ^ exponent` in positional notation, with a point only where a place follows. -/
def positional (digits : Nat) (exponent : Int) : List Char :=
  if 0 ≤ exponent then
    Nat.toDigits 10 digits ++ List.replicate exponent.toNat '0'
  else
    let places := (-exponent).toNat
    let all := padded (places + 1) digits
    let whole := all.length - places
    all.take whole ++ '.' :: all.drop whole

/-- Zero and the numbers without digits are written alike in every notation that starts from the
shortest digits; `write` lays out the others. -/
def withShortest (tie : Tie) (zero : String) (write : Nat → Int → List Char) (value : Float) :
    String :=
  match Binary64.ofFloat value with
  | .notANumber => notANumberText
  | .infinite negative => infinityText negative
  | .finite negative significand exponent =>
      if significand = 0 then (if negative then "-" ++ zero else zero)
      else
        let found := shortest tie significand exponent
        signed negative (write found.1 found.2)

/-- The shortest digits that read back, never with an exponent, and no point on whole numbers. -/
def plain (value : Float) : String :=
  withShortest .greater "0" positional value

/-- As `plain`, but a whole number ends in `.0`. -/
def pointed (value : Float) : String :=
  withShortest .greater "0.0" (fun digits exponent =>
    if 0 ≤ exponent then positional digits exponent ++ ['.', '0']
    else positional digits exponent) value

/-- The power of ten that a mantissa is multiplied by. -/
def exponentMark (signed : Bool) (power : Int) : List Char :=
  let sign := if power < 0 then ['-'] else if signed then ['+'] else []
  'e' :: sign ++ Nat.toDigits 10 power.natAbs

/-- Positional with a point where the first digit stands behind the place `least` and the number is
below `1e16`, and with an exponent elsewhere. -/
def floating (tie : Tie) (least : Int) (signed : Bool) (value : Float) : String :=
  withShortest tie "0.0" (fun digits exponent =>
    let text := Nat.toDigits 10 digits
    let pointAt : Int := text.length + exponent
    if 0 ≤ exponent ∧ pointAt ≤ 16 then positional digits exponent ++ ['.', '0']
    else if least < pointAt ∧ pointAt ≤ 16 then positional digits exponent
    else
      let mantissa :=
        match text with
        | [] => []
        | [digit] => [digit]
        | digit :: rest => digit :: '.' :: rest
      mantissa ++ exponentMark signed (pointAt - 1)) value

/-- Positional from `1e-5` up to `1e16`, and with an exponent outside that always has a sign. -/
def scientific (value : Float) : String := floating .even (-5) true value

/-- Positional from `1e-4` up to `1e16`, and with an exponent outside. -/
def literal (value : Float) : String := floating .greater (-4) false value

/-- Numbers in brackets. -/
def literals (values : List Float) : String :=
  "[" ++ ", ".intercalate (values.map literal) ++ "]"

/-- `places` decimal places of the exact value; the sign of a negative number stays even where
every digit shown is zero. -/
def fixed (places : Nat) (value : Float) : String :=
  match Binary64.ofFloat value with
  | .notANumber => notANumberText
  | .infinite negative => infinityText negative
  | .finite negative significand exponent =>
      let digits := roundToGrid (Binary64.magnitude significand exponent) (-places)
      signed negative (positional digits (-places))

/-- The number read from `±digits * 10 ^ exponent`. -/
def toFloat (negative : Bool) (digits : Nat) (exponent : Int) : Float :=
  let size :=
    if 0 ≤ exponent then Float.ofScientific digits false exponent.toNat
    else Float.ofScientific digits true (-exponent).toNat
  if negative then -size else size

/-- A number below one is rounded to nine decimal places, any other to ten significant digits.
Zero has no sign. A number that would round beyond the greatest finite one stays as it is. -/
def steadied (value : Float) : Float :=
  match Binary64.ofFloat value with
  | .notANumber => value
  | .infinite _ => value
  | .finite negative significand exponent =>
      let size := Binary64.magnitude significand exponent
      let grid : Int :=
        if size.numerator < size.denominator then -9 else decimalExponent size - 9
      let digits := roundToGrid size grid
      if digits = 0 then 0
      else
        let rounded := toFloat negative digits grid
        if rounded.isInf then value else rounded

def steady (value : Float) : String :=
  plain (steadied value)

/-- As `fixed`, without the sign of a number that shows as zero. -/
def fixedUnsignedZero (places : Nat) (value : Float) : String :=
  let text := fixed places value
  match text.toList with
  | '-' :: digits =>
      if digits.all (fun digit => digit = '0' || digit = '.') then String.ofList digits else text
  | _ => text

end DeltaRobot.Decimal
