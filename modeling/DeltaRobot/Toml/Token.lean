/-!
Contract: the tokens of a TOML text.

Line ends of two characters count as one. White space is kept as a token, since a date may be
separated from its time by exactly one blank. A text with a character in the wrong place has no
tokens.

Owns: `Token`, the four kinds of quoted texts, and `tokens?`.
Does not own: numbers and dates, which are put together from several tokens.
-/

namespace DeltaRobot.Toml

inductive Token where
  | space (blanks : List Char)
  | newline
  | comment
  | equals
  | period
  | comma
  | colon
  | plus
  | openBrace
  | closeBrace
  | openBracket
  | closeBracket
  /-- A run of letters, digits, dashes and underscores. -/
  | word (chars : List Char)
  | text (value : List Char) (multiline : Bool)
deriving DecidableEq, Repr

namespace Token

/-- Turns line ends of two characters into one. -/
def foldLineEnds : List Char → List Char
  | '\r' :: '\n' :: rest => '\n' :: foldLineEnds rest
  | char :: rest => char :: foldLineEnds rest
  | [] => []

def isBlank (char : Char) : Bool := char = ' ' || char = '\t'

def isWordChar (char : Char) : Bool := char.isAlphanum || char = '-' || char = '_'

/-- Tab is the only control that a comment or a text may hold. -/
def isCommentChar (char : Char) : Bool := char = '\t' || 32 ≤ char.toNat

def isTextChar (char : Char) : Bool := isCommentChar char && char.toNat ≠ 127

/-! ### Quoted texts -/

def hexValue? (char : Char) : Option Nat :=
  if char.isDigit then some (char.toNat - '0'.toNat)
  else if 'a' ≤ char ∧ char ≤ 'f' then some (char.toNat - 'a'.toNat + 10)
  else if 'A' ≤ char ∧ char ≤ 'F' then some (char.toNat - 'A'.toNat + 10)
  else none

/-- The number of a run of hexadecimal digits. -/
def hexNumber? (digits : List Char) : Option Nat :=
  digits.foldlM (fun value digit => (hexValue? digit).map (value * 16 + ·)) 0

/-- The character of a code that is given by `width` hexadecimal digits. -/
def codeEscape? (width : Nat) (chars : List Char) : Option (Char × List Char) := do
  let digits := chars.take width
  let code ← if digits.length = width then hexNumber? digits else none
  if code.isValidChar then some (Char.ofNat code, chars.drop width) else none

def letterEscape? (letter : Char) : Option Char :=
  match letter with
  | '"' => some '"'
  | '\\' => some '\\'
  | 'b' => some '\x08'
  | 'f' => some '\x0c'
  | 'n' => some '\n'
  | 'r' => some '\r'
  | 't' => some '\t'
  | _ => none

def dropLayout (chars : List Char) : List Char :=
  chars.dropWhile (fun char => isBlank char || char = '\n')

/-- What follows a backslash at the end of a line: blanks up to the line end, and then all layout
in front of the next visible character. -/
def continuedLine? (chars : List Char) : Option (List Char) :=
  match chars.dropWhile isBlank with
  | '\n' :: rest => some (dropLayout rest)
  | [] => some []
  | _ => none

/-- The text that an escape stands for, and what follows it. -/
def escape? (multiline : Bool) (chars : List Char) : Option (List Char × List Char) :=
  match chars with
  | 'u' :: rest => (codeEscape? 4 rest).map (fun found => ([found.1], found.2))
  | 'U' :: rest => (codeEscape? 8 rest).map (fun found => ([found.1], found.2))
  | letter :: rest =>
      match letterEscape? letter with
      | some char => some ([char], rest)
      | none =>
          if multiline && (isBlank letter || letter = '\n') then
            (continuedLine? chars).map (fun rest => ([], rest))
          else none
  | [] => none

/-- Reads a text on one line up to its closing quote. Escapes are read where `escapes` says so. -/
def lineText? (quote : Char) (escapes : Bool) : Nat → List Char → Option (List Char × List Char)
  | 0, _ => none
  | _, [] => none
  | fuel + 1, char :: rest =>
      if char = quote then some ([], rest)
      else if escapes && char = '\\' then do
        let (found, rest) ← escape? false rest
        let (value, rest) ← lineText? quote escapes fuel rest
        return (found ++ value, rest)
      else if isTextChar char then do
        let (value, rest) ← lineText? quote escapes fuel rest
        return (char :: value, rest)
      else none

/-- Reads a text over several lines up to its three closing quotes. One or two quotes more belong
to the text. -/
def blockText? (quote : Char) (escapes : Bool) : Nat → List Char → Option (List Char × List Char)
  | 0, _ => none
  | _, [] => none
  | fuel + 1, char :: rest =>
      if char = quote then
        let quotes := (char :: rest).takeWhile (· = quote)
        if quotes.length < 3 then do
          let (value, rest) ← blockText? quote escapes fuel ((char :: rest).drop quotes.length)
          return (quotes ++ value, rest)
        else
          let closing := min quotes.length 5
          some (quotes.take (closing - 3), (char :: rest).drop closing)
      else if escapes && char = '\\' then do
        let (found, rest) ← escape? true rest
        let (value, rest) ← blockText? quote escapes fuel rest
        return (found ++ value, rest)
      else if char = '\n' || isTextChar char then do
        let (value, rest) ← blockText? quote escapes fuel rest
        return (char :: value, rest)
      else none

/-- Reads a text behind its first quote. Two quotes are the empty text, and three open a text over
several lines, whose first line end does not count. -/
def quoted? (quote : Char) (escapes : Bool) (chars : List Char) : Option (Token × List Char) :=
  match chars with
  | first :: second :: rest =>
      if first = quote && second = quote then
        let body := match rest with
          | '\n' :: rest => rest
          | _ => rest
        (blockText? quote escapes (body.length + 1) body).map
          (fun found => (.text found.1 true, found.2))
      else if first = quote then some (.text [] false, second :: rest)
      else
        (lineText? quote escapes (chars.length + 1) chars).map
          (fun found => (.text found.1 false, found.2))
  | _ =>
      (lineText? quote escapes (chars.length + 1) chars).map
        (fun found => (.text found.1 false, found.2))

/-! ### Tokens -/

/-- Reads the token that starts with a character. -/
def scan? (char : Char) (rest : List Char) : Option (Token × List Char) :=
  match char with
  | '\n' => some (.newline, rest)
  | '#' => some (.comment, rest.dropWhile isCommentChar)
  | '=' => some (.equals, rest)
  | '.' => some (.period, rest)
  | ',' => some (.comma, rest)
  | ':' => some (.colon, rest)
  | '+' => some (.plus, rest)
  | '{' => some (.openBrace, rest)
  | '}' => some (.closeBrace, rest)
  | '[' => some (.openBracket, rest)
  | ']' => some (.closeBracket, rest)
  | '\'' => quoted? '\'' false rest
  | '"' => quoted? '"' true rest
  | _ =>
      if isBlank char then
        some (.space ((char :: rest).takeWhile isBlank), rest.dropWhile isBlank)
      else if isWordChar char then
        some (.word ((char :: rest).takeWhile isWordChar), rest.dropWhile isWordChar)
      else none

/-- Reads all tokens, the latest first. -/
def scanAll? : Nat → List Token → List Char → Option (List Token)
  | _, found, [] => some found
  | 0, _, _ :: _ => none
  | fuel + 1, found, char :: rest =>
      match scan? char rest with
      | some (token, rest) => scanAll? fuel (token :: found) rest
      | none => none

end Token

/-- The tokens of a text. A byte order mark in front does not count. -/
def tokens? (text : String) : Option (List Token) :=
  let chars := Token.foldLineEnds text.toList
  let chars := match chars with
    | '\ufeff' :: rest => rest
    | _ => chars
  (Token.scanAll? chars.length [] chars).map List.reverse

end DeltaRobot.Toml
