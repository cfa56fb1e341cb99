import DeltaRobot.Toml.Number
import DeltaRobot.Toml.Token

/-!
Contract: the lines of a TOML text, with the values that they hold.

A line is a table header or a key with a value. Values are literals: a date keeps its spelling and
a table may name a key twice, since whether that matters depends on who reads it. A dotted key
opens a table inside the table it stands in.

Owns: `Literal`, `Section`, and `sections?`, which gathers the lines under their headers.
Does not own: how headers nest, which is the work of `DeltaRobot.Toml.Tree`.
-/

namespace DeltaRobot.Toml

inductive Literal where
  | integer (value : Int)
  | real (value : Float)
  | boolean (value : Bool)
  | text (value : String)
  | moment (chars : List Char)
  | array (items : List Literal)
  | table (entries : List (String × Literal))
  /-- A table that dotted keys opened and may still add to. -/
  | dotted (entries : List (String × Literal))

abbrev Entries := List (String × Literal)

/-- The lines under one header. -/
structure Section where
  header : List String
  entries : Entries
  /-- Whether the header adds an element to an array of tables. -/
  isArray : Bool

/-- A reader of tokens: a value and the tokens behind it. -/
abbrev Reader (β : Type) := List Token → Option (β × List Token)

namespace Reader

def skipSpace (tokens : List Token) : List Token :=
  match tokens with
  | .space _ :: rest => rest
  | _ => tokens

def expect? (token : Token) (tokens : List Token) : Option (List Token) :=
  match tokens with
  | first :: rest => if first = token then some rest else none
  | [] => none

/-- The end of a line, behind a comment or not. -/
def lineEnd? (tokens : List Token) : Option (List Token) :=
  let rest := match skipSpace tokens with
    | .comment :: rest => rest
    | rest => rest
  match rest with
  | [] => some []
  | .newline :: rest => some rest
  | _ => none

/-- Layout between the elements of an array. A comment there ends with its line. -/
def skipLayout? : List Token → Option (List Token)
  | .space _ :: rest => skipLayout? rest
  | .newline :: rest => skipLayout? rest
  | .comment :: .newline :: rest => skipLayout? rest
  | [.comment] => some []
  | .comment :: _ => none
  | tokens => some tokens

/-! ### Keys -/

def keyPart : Reader String
  | .word chars :: rest => some (String.ofList chars, rest)
  | .text value false :: rest => some (String.ofList value, rest)
  | _ => none

def moreParts : Nat → Reader (List String)
  | 0, _ => none
  | fuel + 1, tokens =>
      match skipSpace tokens with
      | .period :: rest => do
          let (part, rest) ← keyPart (skipSpace rest)
          let (parts, rest) ← moreParts fuel rest
          return (part :: parts, rest)
      | rest => some ([], rest)

/-- A dotted key, with the space around its parts. -/
def key : Reader (List String) := fun tokens => do
  let (first, rest) ← keyPart tokens
  let (parts, rest) ← moreParts (rest.length + 1) rest
  return (first :: parts, rest)

/-- Puts a value under a dotted key. A part of the key that holds anything but a table opened by
dotted keys cannot be added to; the last part is not compared with the keys that are there. -/
def insertDotted? (value : Literal) : List String → Entries → Option Entries
  | [], _ => none
  | [part], entries => some (entries ++ [(part, value)])
  | part :: parts, entries =>
      match entries.find? (fun entry => entry.1 = part) with
      | none => (insertDotted? value parts []).map (fun inner => entries ++ [(part, .dotted inner)])
      | some (_, .dotted inner) =>
          (insertDotted? value parts inner).map (fun inner =>
            let before := entries.takeWhile (fun entry => entry.1 ≠ part)
            before ++ (part, .dotted inner) :: entries.drop (before.length + 1))
      | some _ => none

/-! ### Numbers and moments -/

def word : Reader (List Char)
  | .word chars :: rest => some (chars, rest)
  | _ => none

/-- A word behind a separator, if the separator stands here. -/
def separated (separator : Token) (mark : Char) (tokens : List Token) :
    Option (List Char × List Token) :=
  match tokens with
  | first :: rest =>
      if first = separator then (word rest).map (fun found => (mark :: found.1, found.2))
      else some ([], tokens)
  | [] => some ([], tokens)

/-- The minutes, seconds and offset of a moment, behind the colon that follows its hours. -/
def clock : Reader (List Char) := fun tokens => do
  let (minutes, rest) ← word tokens
  let rest ← expect? .colon rest
  let (seconds, rest) ← word rest
  let (decimals, rest) ← separated .period '.' rest
  let (hours, rest) ← separated .plus '+' rest
  let (offset, rest) ← separated .colon ':' rest
  return (minutes ++ ':' :: seconds ++ decimals ++ hours ++ offset, rest)

/-- A moment that starts with a word. One blank may separate a date from its time, and a word
behind one blank is taken to be hours. -/
def moment (start : List Char) : Reader Literal := fun tokens =>
  let (start, tokens) := match tokens with
    | .space [' '] :: .word hours :: rest => (start ++ ' ' :: hours, rest)
    | _ => (start, tokens)
  match tokens with
  | .colon :: rest =>
      (clock rest).map (fun found => (.moment (start ++ ':' :: found.1), found.2))
  | _ => some (.moment start, tokens)

/-- The exponent of a number behind its digits. A bare mark is continued behind a plus sign. -/
def exponent (suffix : List Char) : Reader Int := fun tokens =>
  let value (run : Number.Run) : Option Int :=
    if run.rest.isEmpty then
      let size : Int := Number.ofDigits 10 run.digits
      some (if run.negative then -size else size)
    else none
  match suffix with
  | [] => some (0, tokens)
  | mark :: digits =>
      if mark ≠ 'e' ∧ mark ≠ 'E' then none
      else if digits.isEmpty then do
        let (digits, rest) ← word (match tokens with | .plus :: rest => rest | _ => tokens)
        let found ← (Number.run? 10 false true digits).bind value
        return (found, rest)
      else (Number.run? 10 true true digits).bind value |>.map (fun found => (found, tokens))

def real (whole : List Char) (fraction : Option (List Char)) : Reader Literal := fun tokens => do
  let whole ← Number.run? 10 true false whole
  match fraction with
  | none =>
      let (exponent, rest) ← exponent whole.rest tokens
      let value ← Number.decimal? whole.negative whole.digits [] exponent
      return (.real value, rest)
  | some fraction =>
      if whole.rest.isEmpty then
        let fraction ← Number.run? 10 false true fraction
        let (exponent, rest) ← exponent fraction.rest tokens
        let value ← Number.decimal? whole.negative whole.digits fraction.digits exponent
        return (.real value, rest)
      else none

def notANumber : Float := 0.0 / 0.0
def infinity : Float := 1.0 / 0.0

/-- A number that starts with a word. Marked integers come first, since their digits may look like
an exponent. -/
def number (chars : List Char) : Reader Literal := fun tokens =>
  let marked : Bool := match chars with
    | '0' :: mark :: _ => mark = 'x' || mark = 'o' || mark = 'b'
    | _ => false
  if marked then (Number.integer? chars).map (fun value => (.integer value, tokens))
  else if chars.contains 'e' || chars.contains 'E' then real chars none tokens
  else
    match tokens with
    | .period :: rest => do
        let (fraction, rest) ← word rest
        real chars (some fraction) rest
    | _ =>
        if chars = ['i', 'n', 'f'] then some (.real infinity, tokens)
        else if chars = ['-', 'i', 'n', 'f'] then some (.real (-infinity), tokens)
        else if chars = ['n', 'a', 'n'] ∨ chars = ['-', 'n', 'a', 'n'] then
          some (.real notANumber, tokens)
        else (Number.integer? chars).map (fun value => (.integer value, tokens))

/-- Whether a text holds a mark of an exponent right in front of a minus sign. -/
def hasNegativeExponent : List Char → Bool
  | mark :: '-' :: rest => mark = 'e' || mark = 'E' || hasNegativeExponent ('-' :: rest)
  | _ :: rest => hasNegativeExponent rest
  | [] => false

/-- A dash inside a word tells a date from a number, unless it is the sign of an exponent. -/
def looksLikeMoment (chars : List Char) : Bool :=
  chars.contains 'T' || chars.contains 't' ||
    ((chars.drop 1).contains '-' && !hasNegativeExponent chars)

/-- A value that starts with a word other than a truth value. A colon behind the word makes any
such value a moment, whether or not there can be one. -/
def numberOrMoment (chars : List Char) : Reader Literal := fun tokens =>
  let starts : Bool := match chars with
    | first :: _ => first = '-' || first.isDigit
    | [] => false
  if !starts && chars ≠ ['i', 'n', 'f'] && chars ≠ ['n', 'a', 'n'] then none
  else if looksLikeMoment chars then moment chars tokens
  else
    match tokens with
    | .colon :: rest =>
        match rest with
        | .space [' '] :: .word _ :: _ => none
        | _ => (clock rest).map (fun found => (.moment (chars ++ ':' :: found.1), found.2))
    | _ => number chars tokens

/-! ### Values -/

/-- The space in front of a value and the sign of equality. -/
def equalsSign? (tokens : List Token) : Option (List Token) :=
  (expect? .equals (skipSpace tokens)).map skipSpace

mutual

def value : Nat → Reader Literal
  | 0, _ => none
  | _ + 1, .text chars _ :: rest => some (.text (String.ofList chars), rest)
  | _ + 1, .word chars :: rest =>
      if chars = "true".toList then some (.boolean true, rest)
      else if chars = "false".toList then some (.boolean false, rest)
      else numberOrMoment chars rest
  | _ + 1, .plus :: .word chars :: rest => number chars rest
  | fuel + 1, .openBrace :: rest =>
      match skipSpace rest with
      | .closeBrace :: rest => some (.table [], rest)
      | rest => (inlineEntries fuel [] rest).map (fun found => (.table found.1, found.2))
  | fuel + 1, .openBracket :: rest =>
      (items fuel rest).map (fun found => (.array found.1, found.2))
  | _ + 1, _ => none

/-- The entries of a table on one line, behind those that are there already. -/
def inlineEntries : Nat → Entries → Reader Entries
  | 0, _, _ => none
  | fuel + 1, entries, tokens => do
      let (parts, rest) ← key tokens
      let rest ← equalsSign? rest
      let (found, rest) ← value fuel rest
      let entries ← insertDotted? found parts entries
      match skipSpace rest with
      | .closeBrace :: rest => some (entries, rest)
      | .comma :: rest => inlineEntries fuel entries (skipSpace rest)
      | _ => none

/-- The items of an array, and its closing bracket. A comma may stand behind the last one. -/
def items : Nat → Reader (List Literal)
  | 0, _ => none
  | fuel + 1, tokens => do
      let tokens ← skipLayout? tokens
      match tokens with
      | .closeBracket :: rest => some ([], rest)
      | _ =>
          let (first, rest) ← value fuel tokens
          let rest ← skipLayout? rest
          match rest with
          | .comma :: rest =>
              let (others, rest) ← items fuel rest
              return (first :: others, rest)
          | .closeBracket :: rest => some ([first], rest)
          | _ => none

end

/-! ### Lines -/

inductive Line where
  | header (parts : List String) (isArray : Bool)
  | entry (key : List String) (value : Literal)

def header : Reader Line := fun tokens => do
  let isArray := tokens.head? = some .openBracket
  let tokens := if isArray then tokens.drop 1 else tokens
  let (parts, rest) ← key (skipSpace tokens)
  let rest ← expect? .closeBracket rest
  let rest ← if isArray then expect? .closeBracket rest else some rest
  let rest ← lineEnd? rest
  return (.header parts isArray, rest)

def entry : Reader Line := fun tokens => do
  let (parts, rest) ← key tokens
  let rest ← equalsSign? rest
  let (found, rest) ← value (rest.length + 1) rest
  let rest ← lineEnd? rest
  return (.entry parts found, rest)

/-- The next line that holds something, or nothing at the end of the text. -/
def nextLine : Reader (Option Line) := fun tokens => do
  let tokens ← skipLayout? tokens
  match tokens with
  | [] => some (none, [])
  | .openBracket :: rest => (header rest).map (fun found => (some found.1, found.2))
  | _ => (entry tokens).map (fun found => (some found.1, found.2))

/-- Reads all lines, gathering entries under the last header. The lines in front of the first
header make up a section only if there are any. -/
def gather : Nat → Option Section → List Token → Option (List Section)
  | 0, _, _ => none
  | fuel + 1, current, tokens => do
      let (line, rest) ← nextLine tokens
      match line with
      | none => some current.toList
      | some (.header parts isArray) =>
          let others ← gather fuel (some ⟨parts, [], isArray⟩) rest
          return current.toList ++ others
      | some (.entry parts value) =>
          let opened := current.getD ⟨[], [], false⟩
          let entries ← insertDotted? value parts opened.entries
          gather fuel (some { opened with entries }) rest

end Reader

def sections? (text : String) : Option (List Section) := do
  let tokens ← tokens? text
  Reader.gather (tokens.length + 1) none tokens

end DeltaRobot.Toml
