import DeltaRobot.Decimal.Notation
import DeltaRobot.Decode.Mismatch

/-!
Contract: JSON values to be written, and their text.

A real number is written with the shortest digits that read back, with a point or an exponent
behind the first of them. JSON has no infinities and nothing that is not a number, so these are
written as `null`. Another form of real numbers can be given instead.

Owns: `Value` and `Value.render`.
Does not own: reading, which goes through `DeltaRobot.Json.Tree`.
-/

namespace DeltaRobot.Json

inductive Value where
  | null
  | boolean (value : Bool)
  | integer (value : Int)
  | real (value : Float)
  | text (value : String)
  | array (items : List Value)
  | object (members : List (String × Value))

namespace Value

/-- Four hexadecimal digits. -/
def hex4 (code : Nat) : List Char :=
  let digits := Nat.toDigits 16 code
  List.replicate (4 - digits.length) '0' ++ digits

/-- One character inside quotes. -/
def escape (char : Char) : List Char :=
  match char with
  | '"' => ['\\', '"']
  | '\\' => ['\\', '\\']
  | '\x08' => ['\\', 'b']
  | '\x0c' => ['\\', 'f']
  | '\n' => ['\\', 'n']
  | '\r' => ['\\', 'r']
  | '\t' => ['\\', 't']
  | _ => if char.toNat < 32 then '\\' :: 'u' :: hex4 char.toNat else [char]

def renderText (text : String) : String :=
  String.ofList ('"' :: text.toList.flatMap escape ++ ['"'])

def renderReal (value : Float) : String :=
  if value.isFinite then Decimal.scientific value else "null"

/-- Joins written elements inside brackets. -/
def bracketed (opening closing : String) (elements : List String) : String :=
  opening ++ ",".intercalate elements ++ closing

mutual

/-- The text of a value, with its real numbers in a given form. -/
def renderWith (realText : Float → String) : Value → String
  | .null => "null"
  | .boolean value => Decode.booleanText value
  | .integer value => Decode.integerText value
  | .real value => realText value
  | .text value => renderText value
  | .array items => bracketed "[" "]" (renderItems realText items)
  | .object members => bracketed "\x7b" "\x7d" (renderMembers realText members)

def renderItems (realText : Float → String) : List Value → List String
  | [] => []
  | item :: items => renderWith realText item :: renderItems realText items

def renderMembers (realText : Float → String) : List (String × Value) → List String
  | [] => []
  | (name, value) :: members =>
      (renderText name ++ ":" ++ renderWith realText value) :: renderMembers realText members

end

def render (value : Value) : String := value.renderWith renderReal

end Value

end DeltaRobot.Json
