import DeltaRobot.Text.Quoted

/-!
Contract: how a well-formed value fails to be what its reader expects.

The causes are the same for every format that holds numbers, texts, lists and named members, and
so is their wording; only the text of a real number depends on the format.

Owns: `Mismatch`, `Found` and their wording.
Does not own: damage to the text of a format.
-/

namespace DeltaRobot.Decode

/-- What a reader found where it expected something else. -/
inductive Found where
  | null
  | boolean (value : Bool)
  | integer (value : Int)
  | real (value : Float)
  | text (value : String)
  | sequence
  | map

/-- How a value can fail to fit. The expectations are named by their descriptions. -/
inductive Mismatch where
  | wrongType (found : Found) (expected : String)
  | wrongLength (length : Nat) (expected : String)
  | missingField (field : String)
  | duplicateField (field : String)
  | unknownVariant (name : String) (known : List String)

/-- How an integer is written. -/
def integerText (value : Int) : String :=
  if 0 ≤ value then String.ofList (Nat.toDigits 10 value.toNat)
  else String.ofList ('-' :: Nat.toDigits 10 (-value).toNat)

/-- How a truth value is written. -/
def booleanText (value : Bool) : String := if value then "true" else "false"

def Found.describe (realText : Float → String) : Found → String
  | null => "null"
  | boolean value => s!"boolean `{booleanText value}`"
  | integer value => s!"integer `{integerText value}`"
  | real value => s!"floating point `{realText value}`"
  | text value => s!"string {Text.quoted value}"
  | sequence => "sequence"
  | map => "map"

/-- The alternatives of a choice. -/
def alternatives (names : List String) : String :=
  " or ".intercalate (names.map (fun name => s!"`{name}`"))

def Mismatch.message (realText : Float → String) : Mismatch → String
  | wrongType found expected =>
      s!"invalid type: {found.describe realText}, expected {expected}"
  | wrongLength length expected => s!"invalid length {length}, expected {expected}"
  | missingField field => s!"missing field `{field}`"
  | duplicateField field => s!"duplicate field `{field}`"
  | unknownVariant name known => s!"unknown variant `{name}`, expected {alternatives known}"

/-- The description of a record by its name and the number of its fields. -/
def recordDescription (name : String) (fields : Nat) : String :=
  if fields = 1 then s!"struct {name} with 1 element"
  else s!"struct {name} with {fields} elements"

end DeltaRobot.Decode
