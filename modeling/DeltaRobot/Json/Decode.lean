import DeltaRobot.Decode.Mismatch
import DeltaRobot.Json.Number
import DeltaRobot.Json.Tree

/-!
Contract: reading typed values out of JSON trees.

A decoder goes through a tree in the order of its text and stops at the first thing that is wrong,
damage and mismatch alike. Members of an object that a record does not know are passed over; they
need not be worth anything, but they must be well-formed.

Owns: `DecodeError`, the decoders of numbers, booleans, lists, records and choices.
Does not own: any particular record.
-/

namespace DeltaRobot.Json

open Decode (Found Mismatch)

inductive DecodeError where
  | truncated
  | malformed
  | mismatch (cause : Mismatch)

/-- Reads a value of one type. -/
abbrev Decoder (β : Type) := Tree → Except DecodeError β

namespace Fault

/-- What damage means to a reader of the damaged value. -/
def asRead : Fault → DecodeError
  | endOfText => .truncated
  | endOfNumber => .truncated
  | malformed => .malformed

/-- What damage means to a reader that passes over the value: it does not tell a number that is
cut off from one that is misspelled. -/
def asSkipped : Fault → DecodeError
  | endOfText => .truncated
  | endOfNumber => .malformed
  | malformed => .malformed

/-- What damage to a quoted text means to its reader, who may meet half a surrogate pair first. -/
def asReadText (units : List TextUnit) (fault : Fault) : DecodeError :=
  match TextUnit.spell units with
  | .unpaired => .malformed
  | _ => fault.asRead

end Fault

namespace Ending

/-- The error of asking for more behind the last element, if there is one. A damaged name is
judged by `damaged`. -/
def error? (damaged : List TextUnit → Fault → DecodeError) : Ending → Option DecodeError
  | closed => none
  | endOfText => some .truncated
  | misplaced => some .malformed
  | nameless none => some .truncated
  | nameless (some (.brokenText units fault)) => some (damaged units fault)
  | nameless (some _) => some .malformed

end Ending

namespace Decoder

/-! ### Values that are not looked into -/

mutual

/-- The first damage in a value that is passed over. -/
def skip? : Tree → Option DecodeError
  | .absent => some .truncated
  | .broken fault => some fault.asSkipped
  | .brokenText _ fault => some fault.asSkipped
  | .null => none
  | .boolean _ => none
  | .number _ => none
  | .text _ => none
  | .array items ending =>
      (skipItems? items).or (ending.error? (fun _ fault => fault.asSkipped))
  | .object members ending =>
      (skipMembers? members).or (ending.error? (fun _ fault => fault.asSkipped))

def skipItems? : List Tree → Option DecodeError
  | [] => none
  | item :: items => (skip? item).or (skipItems? items)

def skipMembers? : List (Name × Tree) → Option DecodeError
  | [] => none
  | (_, value) :: members => (skip? value).or (skipMembers? members)

end

/-! ### Mismatches -/

/-- What stands in the place of an expected value, provided that it is whole. Lists are named
without being read. -/
def found : Tree → Except DecodeError Found
  | .absent => .error .truncated
  | .broken fault => .error fault.asRead
  | .brokenText units fault => .error (fault.asReadText units)
  | .null => .ok .null
  | .boolean value => .ok (.boolean value)
  | .number numeral =>
      match numeral.worth? with
      | some (.integer value) => .ok (.integer value)
      | some (.real value) => .ok (.real value)
      | none => .error .malformed
  | .text units =>
      match TextUnit.spell? units with
      | some text => .ok (.text text)
      | none => .error .malformed
  | .array _ _ => .ok .sequence
  | .object _ _ => .ok .map

/-- The error of a value that is not what was expected. -/
def refuse (expected : String) (tree : Tree) : DecodeError :=
  match found tree with
  | .error cause => cause
  | .ok thing => .mismatch (.wrongType thing expected)

/-! ### Scalars -/

def real : Decoder Float
  | .number numeral =>
      match numeral.worth? with
      | some number => .ok number.toFloat
      | none => .error .malformed
  | tree => .error (refuse "f64" tree)

def boolean : Decoder Bool
  | .boolean value => .ok value
  | tree => .error (refuse "a boolean" tree)

/-! ### Lists -/

def items {β : Type} (decode : Decoder β) : List Tree → Except DecodeError (List β)
  | [] => .ok []
  | tree :: trees => do
      let value ← decode tree
      let values ← items decode trees
      return value :: values

/-- The error of a list that ends too early, with `length` elements: a closed list is too short, an
open one is damaged. -/
def shortList (length : Nat) (expected : String) (ending : Ending) : DecodeError :=
  (ending.error? Fault.asReadText).getD (.mismatch (.wrongLength length expected))

/-- A reader that has all it wants takes only the closing bracket: a further element is one
character too many. -/
def expectClosed (left : List Tree) (ending : Ending) : Except DecodeError Unit :=
  if left.isEmpty then
    match ending.error? Fault.asReadText with
    | none => .ok ()
    | some cause => .error cause
  else .error .malformed

def list {β : Type} (decode : Decoder β) : Decoder (List β)
  | .array trees ending => do
      let values ← items decode trees
      expectClosed [] ending
      return values
  | tree => .error (refuse "a sequence" tree)

/-- A list of exactly three numbers. Behind the third one only the closing bracket is read. -/
def triple : Decoder (Float × Float × Float)
  | .array trees ending => do
      let expected := "an array of length 3"
      match trees with
      | first :: second :: third :: left =>
          let x ← real first
          let y ← real second
          let z ← real third
          expectClosed left ending
          return (x, y, z)
      | _ =>
          let values ← items real trees
          .error (shortList values.length expected ending)
  | tree => .error (refuse "an array of length 3" tree)

/-- Three coordinates. A fourth is read before it is refused. -/
def coordinates : Decoder (Float × Float × Float)
  | .array trees ending => do
      let expected := "a matrix array"
      match trees with
      | first :: second :: third :: left =>
          let x ← real first
          let y ← real second
          let z ← real third
          match left with
          | [] => expectClosed [] ending
          | fourth :: _ =>
              let _ ← real fourth
              .error (.mismatch (.wrongLength 3 expected))
          return (x, y, z)
      | _ =>
          let values ← items real trees
          .error (shortList values.length expected ending)
  | tree => .error (refuse "a matrix array" tree)

/-! ### Records -/

/-- One field of a record that is being filled; `π` holds the fields read so far. -/
structure Field (π : Type) where
  name : String
  isSet : π → Bool
  read : Tree → π → Except DecodeError π
  /-- Whether a record may end before this field. -/
  optional : Bool

def Field.ofDecoder {π β : Type} (name : String) (decode : Decoder β) (get : π → Option β)
    (put : β → π → π) (optional : Bool) : Field π :=
  { name
    isSet := fun partly => (get partly).isSome
    read := fun tree partly => (decode tree).map (fun value => put value partly)
    optional }

/-- How a record is laid out. It is written as an object of its fields in any order, or as the
array of their values in the order of declaration. -/
structure Record (π ρ : Type) where
  name : String
  fields : List (Field π)
  empty : π
  /-- The record, once every field that must be there is; or the first one that is not. -/
  finish : π → Except String ρ

namespace Record

variable {π ρ : Type}

/-- Reads members in the order of the text. -/
def readMembers (record : Record π ρ) : List (Name × Tree) → π → Except DecodeError π
  | [], partly => .ok partly
  | (units, tree) :: members, partly =>
      match TextUnit.spell? units with
      | none => .error .malformed
      | some name =>
          match record.fields.find? (fun field => field.name = name) with
          | none =>
              match skip? tree with
              | some cause => .error cause
              | none => readMembers record members partly
          | some field =>
              if field.isSet partly then .error (.mismatch (.duplicateField name))
              else
                match field.read tree partly with
                | .error cause => .error cause
                | .ok partly => readMembers record members partly

/-- Reads the values of fields in order, `index` of which have been read. -/
def readItems (record : Record π ρ) (ending : Ending) :
    Nat → List (Field π) → List Tree → π → Except DecodeError π
  | _, [], trees, partly => (expectClosed trees ending).map (fun _ => partly)
  | index, field :: fields, [], partly =>
      match ending.error? Fault.asReadText with
      | some cause => .error cause
      | none =>
          if field.optional then readItems record ending (index + 1) fields [] partly
          else
            .error (.mismatch (.wrongLength index
              (Decode.recordDescription record.name record.fields.length)))
  | index, field :: fields, tree :: trees, partly =>
      match field.read tree partly with
      | .error cause => .error cause
      | .ok partly => readItems record ending (index + 1) fields trees partly

def complete (record : Record π ρ) (partly : π) : Except DecodeError ρ :=
  match record.finish partly with
  | .ok value => .ok value
  | .error field => .error (.mismatch (.missingField field))

def decode (record : Record π ρ) : Decoder ρ
  | .object members ending =>
      match readMembers record members record.empty with
      | .error cause => .error cause
      | .ok partly =>
          match ending.error? Fault.asReadText with
          | some cause => .error cause
          | none => record.complete partly
  | .array trees ending =>
      match readItems record ending 0 record.fields trees record.empty with
      | .error cause => .error cause
      | .ok partly => record.complete partly
  | tree => .error (refuse s!"struct {record.name}" tree)

end Record

/-! ### Choices -/

def variant {β : Type} (all : List β) (name : β → String) (text : String) :
    Except DecodeError β :=
  match all.find? (fun value => name value = text) with
  | some value => .ok value
  | none => .error (.mismatch (.unknownVariant text (all.map name)))

/-- The name of an alternative, at the place where a text must be. -/
def variantName : List TextUnit → Except DecodeError String := fun units =>
  match TextUnit.spell? units with
  | some text => .ok text
  | none => .error .malformed

def null : Decoder Unit
  | .null => .ok ()
  | tree => .error (refuse "unit" tree)

/-- One of a few names, written as a text or as an object with one member that is null. Whatever
else stands where the name of that member is due is malformed. -/
def choice {β : Type} (all : List β) (name : β → String) : Decoder β
  | .text units => do
      let text ← variantName units
      variant all name text
  | .object ((units, tree) :: members) ending => do
      let text ← variantName units
      let value ← variant all name text
      null tree
      match members, ending with
      | [], .closed => return value
      | [], .endOfText => .error .truncated
      | _, _ => .error .malformed
  | .object [] ending => .error ((ending.error? Fault.asReadText).getD .malformed)
  | .brokenText units fault => .error (fault.asReadText units)
  | .absent => .error .truncated
  | _ => .error .malformed

end Decoder

/-- Decodes a text that holds one value and nothing else. -/
def decodeText {β : Type} (decode : Decoder β) (text : String) : Except DecodeError β :=
  let document := Document.ofText text
  match decode document.root with
  | .error cause => .error cause
  | .ok value => if document.trailing.isEmpty then .ok value else .error .malformed

end DeltaRobot.Json
