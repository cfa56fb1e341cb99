import DeltaRobot.Json.Token

/-!
Contract: the tree of a JSON text, whole or damaged.

Every text has a tree. Damage is a leaf, or the way a list ends, at the place where a reader that
goes through the text from the left would meet it; nothing behind the first damage is kept. A
decoder that walks the tree in order therefore finds the first fault of the text, be it a wrong
type or a wrong character.

Owns: `Tree`, `Document.ofText`.
Does not own: what a tree means for a type; that is in `DeltaRobot.Json.Decode`.
-/

namespace DeltaRobot.Json

inductive Ending where
  | closed
  /-- The text ends where a comma or the closing bracket is due. -/
  | endOfText
  /-- Something else stands where a comma or the closing bracket is due. -/
  | misplaced
  /-- Something else stands where the name of a member is due, or nothing. -/
  | nameless (token : Option Token)
deriving DecidableEq, Repr

abbrev Name := List TextUnit

inductive Tree where
  /-- The text ends before a value. -/
  | absent
  | broken (fault : Fault)
  | brokenText (units : List TextUnit) (fault : Fault)
  | null
  | boolean (value : Bool)
  | number (numeral : Numeral)
  | text (units : List TextUnit)
  | array (items : List Tree) (ending : Ending)
  | object (members : List (Name × Tree)) (ending : Ending)

/-- A list whose end has not been reached. Items and members are held in reverse. -/
inductive Frame where
  | array (items : List Tree)
  /-- An object that waits for the value of its last name. -/
  | object (members : List (Name × Tree)) (name : Name)

namespace Frame

/-- Adds the last value of an unfinished list. -/
def add (frame : Frame) (tree : Tree) : List Tree ⊕ List (Name × Tree) :=
  match frame with
  | array items => .inl (tree :: items)
  | object members name => .inr ((name, tree) :: members)

/-- The list with its last value, ending as given. -/
def finish (frame : Frame) (tree : Tree) (ending : Ending) : Tree :=
  match frame.add tree with
  | .inl items => .array items.reverse ending
  | .inr members => .object members.reverse ending

end Frame

namespace Tree

/-- The tree of a text that goes no further than a given value inside open lists. -/
def unwind (tree : Tree) : List Frame → Tree
  | [] => tree
  | frame :: frames => unwind (frame.finish tree .endOfText) frames

end Tree

inductive Expectation where
  | value
  | firstItem
  | firstName
  | name (members : List (Name × Tree))
  | colon (members : List (Name × Tree)) (name : Name)
  /-- A comma or the end of the innermost list, behind a value. -/
  | separator (tree : Tree)

/-- A document: its tree, and what follows it. -/
structure Document where
  root : Tree
  trailing : List Token

namespace Document

/-- What one token does to the reading. -/
inductive Step where
  | next (expectation : Expectation) (frames : List Frame)
  /-- The reading ends with this tree. -/
  | damaged (root : Tree)

/-- Reads the token that a value starts with. -/
def startValue (frames : List Frame) : Token → Step
  | .openArray => .next .firstItem frames
  | .openObject => .next .firstName frames
  | .null => .next (.separator .null) frames
  | .boolean value => .next (.separator (.boolean value)) frames
  | .number numeral => .next (.separator (.number numeral)) frames
  | .text units => .next (.separator (.text units)) frames
  | .brokenText units fault => .damaged (Tree.unwind (.brokenText units fault) frames)
  | .broken fault => .damaged (Tree.unwind (.broken fault) frames)
  | _ => .damaged (Tree.unwind (.broken .malformed) frames)

/-- Reads the token that stands where a name is due. -/
def startMember (members : List (Name × Tree)) (frames : List Frame) : Token → Step
  | .text name => .next (.colon members name) frames
  | token => .damaged (Tree.unwind (.object members.reverse (.nameless (some token))) frames)

/-- Reads the token behind a value that is the last one of a list so far. -/
def continueList (frame : Frame) (frames : List Frame) (tree : Tree) (token : Token) : Step :=
  match token, frame.add tree with
  | .comma, .inl items => .next .value (.array items :: frames)
  | .comma, .inr members => .next (.name members) frames
  | .closeArray, .inl items => .next (.separator (.array items.reverse .closed)) frames
  | .closeObject, .inr members => .next (.separator (.object members.reverse .closed)) frames
  | _, _ => .damaged (Tree.unwind (frame.finish tree .misplaced) frames)

/-- Reads one token. A complete root, which expects nothing, is not meant to be asked. -/
def step : Expectation → List Frame → Token → Step
  | .value, frames, token => startValue frames token
  | .firstItem, frames, .closeArray => .next (.separator (.array [] .closed)) frames
  | .firstItem, frames, token => startValue (.array [] :: frames) token
  | .firstName, frames, .closeObject => .next (.separator (.object [] .closed)) frames
  | .firstName, frames, token => startMember [] frames token
  | .name members, frames, token => startMember members frames token
  | .colon members name, frames, .colon => .next .value (.object members name :: frames)
  | .colon members name, frames, _ =>
      .damaged (Tree.unwind ((Frame.object members name).finish (.broken .malformed) .misplaced)
        frames)
  | .separator tree, frame :: frames, token => continueList frame frames tree token
  | .separator tree, [], _ => .damaged tree

def atEnd : Expectation → List Frame → Tree
  | .value, frames => Tree.unwind .absent frames
  | .firstItem, frames => Tree.unwind .absent (.array [] :: frames)
  | .firstName, frames => Tree.unwind (.object [] (.nameless none)) frames
  | .name members, frames => Tree.unwind (.object members.reverse (.nameless none)) frames
  | .colon members name, frames => Tree.unwind .absent (.object members name :: frames)
  | .separator tree, frames => Tree.unwind tree frames

/-- Reads tokens into a tree, with the unfinished lists around the place of reading, the innermost
first. The reading ends with the root; what follows is kept. -/
def read : Expectation → List Frame → List Token → Document
  | .separator tree, [], rest => ⟨tree, rest⟩
  | expectation, frames, [] => ⟨atEnd expectation frames, []⟩
  | expectation, frames, token :: rest =>
      match step expectation frames token with
      | .next expectation frames => read expectation frames rest
      | .damaged root => ⟨root, []⟩

def ofText (text : String) : Document :=
  read .value [] (tokens text.toList)

end Document

end DeltaRobot.Json
