import DeltaRobot.Decode.Mismatch
import DeltaRobot.Parameters
import DeltaRobot.Toml.Value

/-!
Contract: parameters read from TOML.

A parameter table is a table of the parameters by name, in which other names do not count, or an
array of their values in the order of declaration. An integer serves as a number. What cannot be
read is refused before any value is compared with its range, so a misspelled table is never
reported as one out of range.

A text whose top level is the table is read as it is spelled: entries of other names need not have
a value at all.

Owns: `Parameters.ofValue`, `Parameters.ofText?` and the ways in which a table is refused.
Does not own: the ranges.
-/

namespace DeltaRobot

open Decode (Found Mismatch)

/-- Why a TOML value does not fit, and at which entry of a table. -/
structure ReadError where
  cause : Mismatch
  key : Option String

namespace ReadError

def message (error : ReadError) : String :=
  let text := error.cause.message Decimal.pointed
  match error.key with
  | none => text
  | some key => s!"{text} for key `{key}`"

end ReadError

/-- Why a TOML value gives no parameters. -/
inductive TableError where
  | unreadable (cause : ReadError)
  | refused (cause : ParameterError Float)

def TableError.message : TableError → String
  | unreadable cause => s!"Could not read the parameter table: {cause.message}"
  | refused cause => cause.message

/-- What a reader of a TOML value finds. A moment is read as its text. -/
def Toml.Value.found : Toml.Value → Found
  | integer value => .integer value
  | real value => .real value
  | boolean value => .boolean value
  | text value => .text value
  | moment value => .text value.render
  | array _ => .sequence
  | table _ => .map

namespace Parameters

/-- The name of the record in messages. -/
def recordName : String := "Params"

def readNumber (key : Option String) (value : Toml.Value) : Except ReadError Float :=
  match value.number? with
  | some number => .ok number
  | none => .error ⟨.wrongType value.found "f64", key⟩

/-- The error of the first entry, in the order of the table, that names a parameter without being
a number. -/
def misplaced? (entries : List (String × Toml.Value)) : Option ReadError :=
  entries.findSome? (fun entry =>
    match Parameter.ofName? entry.1, readNumber (some entry.1) entry.2 with
    | some _, .error cause => some cause
    | _, _ => none)

/-- Reads a table. A wrong type counts before a missing entry. -/
def ofEntries (entries : List (String × Toml.Value)) : Except ReadError (Parameters Float) :=
  match misplaced? entries with
  | some cause => .error cause
  | none =>
      let partly : Partial Float := ofFunction (fun parameter =>
        (Toml.Value.lookup? parameter.name entries).bind Toml.Value.number?)
      match partly.complete with
      | .ok parameters => .ok parameters
      | .error missing => .error ⟨.missingField missing.name, none⟩

/-- Reads an array. Its items are looked at in order, and those behind the last parameter not at
all. -/
def ofItems (items : List Toml.Value) : Except ReadError (Parameters Float) :=
  match (items.take Parameter.all.length).mapM (readNumber none) with
  | .error cause => .error cause
  | .ok [crank, linkage, baseTriangle, effectorTriangle, maxNegativeAngle, maxPositiveAngle,
      segmentLength] =>
      if items.length = Parameter.all.length then
        .ok { crank, linkage, baseTriangle, effectorTriangle, maxNegativeAngle, maxPositiveAngle,
              segmentLength }
      else .error ⟨.wrongLength items.length "fewer elements in array", none⟩
  | .ok numbers =>
      .error ⟨.wrongLength numbers.length
        (Decode.recordDescription recordName Parameter.all.length), none⟩

/-- Reads parameters of any value. -/
def read : Toml.Value → Except ReadError (Parameters Float)
  | .table entries => ofEntries entries
  | .array items => ofItems items
  | value => .error ⟨.wrongType value.found s!"struct {recordName}", none⟩

/-- The parameters that a TOML value gives, each within its range. -/
def ofValue (value : Toml.Value) : Except TableError (Parameters Float) :=
  match read value with
  | .error cause => .error (.unreadable cause)
  | .ok parameters =>
      match parameters.validate with
      | .error cause => .error (.refused cause)
      | .ok () => .ok parameters

/-- The number under a parameter's name, which must be there once. -/
def entryOf? (entries : Toml.Entries) (parameter : Parameter) : Option Float :=
  match entries.filter (fun entry => entry.1 = parameter.name) with
  | [entry] => entry.2.number?
  | _ => none

/-- The parameters at the top level of a text, within their ranges or not. -/
def ofText? (text : String) : Option (Parameters Float) := do
  let entries ← Toml.entries? text
  let partly : Partial Float := ofFunction (entryOf? entries)
  partly.complete.toOption

end Parameters

end DeltaRobot
