import DeltaRobot.Toml.Moment
import DeltaRobot.Toml.Tree

/-!
Contract: TOML values.

In a value every name of a table is there once, in ascending order, and every moment is a date or
a time that exists. A literal that breaks either rule has no value. A table may also spell a moment
out, under a reserved name.

Owns: `Value` and the value of a literal.
Does not own: what a value means to a configuration.
-/

namespace DeltaRobot.Toml

inductive Value where
  | integer (value : Int)
  | real (value : Float)
  | boolean (value : Bool)
  | text (value : String)
  | moment (value : Moment)
  | array (items : List Value)
  | table (entries : List (String × Value))

namespace Value

/-- Puts an entry in its place in a list that is in ascending order of names. A name that is there
already gets the new value. -/
def insert (name : String) (value : Value) : List (String × Value) → List (String × Value)
  | [] => [(name, value)]
  | entry :: entries =>
      if name < entry.1 then (name, value) :: entry :: entries
      else if name = entry.1 then (name, value) :: entries
      else entry :: insert name value entries

def lookup? (name : String) (entries : List (String × Value)) : Option Value :=
  (entries.find? (fun entry => entry.1 = name)).map Prod.snd

/-- Entries in ascending order of names; of two entries of one name the later counts. -/
def sorted (entries : List (String × Value)) : List (String × Value) :=
  entries.foldl (fun found entry => insert entry.1 entry.2 found) []

/-- The table of entries in any order. -/
def tableOf (entries : List (String × Value)) : Value := .table (sorted entries)

/-- A table of entries whose names differ. -/
def tableOf? (entries : List (String × Value)) : Option Value :=
  if (entries.map Prod.fst).Nodup then some (tableOf entries) else none

/-- The name of the entry that makes its table a moment, if it is the first one. -/
def momentName : String := "$__toml_private_datetime"

/-- Whether a table of literals stands for a moment. It then has no other value, even if it spells
none. -/
def standsForMoment (entries : List (String × Literal)) : Bool :=
  entries.head?.map Prod.fst = some momentName

/-- The moment that the only entry of a table spells. -/
def spelledMoment? : List (String × Literal) → Option Value
  | [(_, .text spelling)] => (Moment.ofText? spelling.toList).map moment
  | _ => none

/-- The number that a value is, as integer or real. -/
def number? : Value → Option Float
  | integer value => some (Binary64.floatOfInt value)
  | real value => some value
  | _ => none

end Value

mutual

def Literal.value? : Literal → Option Value
  | .integer value => some (.integer value)
  | .real value => some (.real value)
  | .boolean value => some (.boolean value)
  | .text value => some (.text value)
  | .moment chars => (Moment.ofText? chars).map .moment
  | .array items => (itemValues? items).map .array
  | .table entries | .dotted entries =>
      if Value.standsForMoment entries then Value.spelledMoment? entries
      else (entryValues? entries).bind Value.tableOf?

def itemValues? : List Literal → Option (List Value)
  | [] => some []
  | item :: items => do
      let value ← item.value?
      let values ← itemValues? items
      return value :: values

def entryValues? : List (String × Literal) → Option (List (String × Value))
  | [] => some []
  | (name, literal) :: entries => do
      let value ← literal.value?
      let values ← entryValues? entries
      return (name, value) :: values

end

/-- The number that a literal is, as integer or real. -/
def Literal.number? : Literal → Option Float
  | .integer value => some (Binary64.floatOfInt value)
  | .real value => some value
  | _ => none

end DeltaRobot.Toml
