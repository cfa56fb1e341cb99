/-!
Contract: the tokens of a JSON text.

Scanning never fails as a whole. A text that goes wrong gives the tokens up to there and then one
broken token that says how, so a reader that stops earlier never learns of the damage behind it.
White space separates tokens and is dropped.

Owns: `Token`, the scanners of texts and numerals, and `tokens`.
Does not own: which sequences of tokens are a document, and what a numeral is worth.
-/

namespace DeltaRobot.Json

/-- How a token can be damaged. -/
inductive Fault where
  /-- The text ends inside it. -/
  | endOfText
  /-- The text ends inside a number. -/
  | endOfNumber
  /-- A character stands where the grammar has no place for it. -/
  | malformed
deriving DecidableEq, Repr

/-- One unit of a quoted text: a character, or an escaped 16-bit code unit, which is a character
only together with its neighbours. -/
inductive TextUnit where
  | plain (char : Char)
  | codeUnit (code : Nat)
deriving DecidableEq, Repr

/-- The spelling of a number. Digits are stored by value. -/
structure Numeral where
  negative : Bool
  whole : List Nat
  /-- The digits behind the point, when there is a point. -/
  fraction : Option (List Nat)
  /-- Whether the exponent is negative, and its digits, when there is an exponent. -/
  exponent : Option (Bool × List Nat)
deriving DecidableEq, Repr

inductive Token where
  | openArray
  | closeArray
  | openObject
  | closeObject
  | comma
  | colon
  | null
  | boolean (value : Bool)
  | number (numeral : Numeral)
  | text (units : List TextUnit)
  /-- A quoted text that goes wrong behind the given units. -/
  | brokenText (units : List TextUnit) (fault : Fault)
  | broken (fault : Fault)
deriving DecidableEq, Repr

namespace Token

def isSpace (char : Char) : Bool :=
  char = ' ' || char = '\n' || char = '\t' || char = '\r'

/-! ### Quoted texts -/

def hexValue? (char : Char) : Option Nat :=
  if '0' ≤ char ∧ char ≤ '9' then some (char.toNat - '0'.toNat)
  else if 'a' ≤ char ∧ char ≤ 'f' then some (char.toNat - 'a'.toNat + 10)
  else if 'A' ≤ char ∧ char ≤ 'F' then some (char.toNat - 'A'.toNat + 10)
  else none

/-- The character of a one-letter escape. -/
def escaped? (letter : Char) : Option Char :=
  match letter with
  | '"' => some '"'
  | '\\' => some '\\'
  | '/' => some '/'
  | 'b' => some '\x08'
  | 'f' => some '\x0c'
  | 'n' => some '\n'
  | 'r' => some '\r'
  | 't' => some '\t'
  | _ => none

/-- The number of bytes that characters take up. -/
def byteLength (chars : List Char) : Nat :=
  chars.foldr (fun char length => char.utf8Size + length) 0

/-- The code unit of four hexadecimal digits. -/
def codeUnit? (first second third fourth : Char) : Option Nat := do
  let a ← hexValue? first
  let b ← hexValue? second
  let c ← hexValue? third
  let d ← hexValue? fourth
  return ((a * 16 + b) * 16 + c) * 16 + d

/-- A scanned token with the characters behind it; a broken one has none. -/
abbrev Scanned := Token × List Char

/-- Puts a unit in front of a quoted text. -/
def withUnit (unit : TextUnit) : Scanned → Scanned
  | (.text units, rest) => (.text (unit :: units), rest)
  | (.brokenText units fault, rest) => (.brokenText (unit :: units) fault, rest)
  | scanned => scanned

/-- Scans a quoted text behind its opening quote. A code unit escape needs four bytes to follow,
whatever they are, before its digits are looked at. -/
def scanText : List Char → Scanned
  | [] => (.brokenText [] .endOfText, [])
  | '"' :: rest => (.text [], rest)
  | ['\\'] => (.brokenText [] .endOfText, [])
  | '\\' :: 'u' :: rest =>
      if byteLength (rest.take 4) < 4 then (.brokenText [] .endOfText, [])
      else
        match rest with
        | first :: second :: third :: fourth :: rest =>
            match codeUnit? first second third fourth with
            | some code => withUnit (.codeUnit code) (scanText rest)
            | none => (.brokenText [] .malformed, [])
        | _ => (.brokenText [] .malformed, [])
  | '\\' :: letter :: rest =>
      match escaped? letter with
      | some char => withUnit (.plain char) (scanText rest)
      | none => (.brokenText [] .malformed, [])
  | char :: rest =>
      if char.toNat < 32 then (.brokenText [] .malformed, [])
      else withUnit (.plain char) (scanText rest)

/-! ### Numbers -/

def isDigit (char : Char) : Bool := '0' ≤ char && char ≤ '9'

def digitValue (char : Char) : Nat := char.toNat - '0'.toNat

/-- The leading digits of a text, by value, and what follows them. -/
def scanDigits (chars : List Char) : List Nat × List Char :=
  ((chars.takeWhile isDigit).map digitValue, chars.dropWhile isDigit)

/-- The digits that must stand here, or the fault of what stands here instead. -/
def scanSomeDigits (chars : List Char) : Except Fault (List Nat × List Char) :=
  match chars with
  | [] => .error .endOfNumber
  | char :: _ => if isDigit char then .ok (scanDigits chars) else .error .malformed

/-- The digits in front of the point. A zero stands alone. -/
def scanWhole (chars : List Char) : Except Fault (List Nat × List Char) :=
  match chars with
  | '0' :: rest =>
      match rest with
      | next :: _ => if isDigit next then .error .malformed else .ok ([0], rest)
      | [] => .ok ([0], rest)
  | _ => scanSomeDigits chars

def scanFraction (chars : List Char) : Except Fault (Option (List Nat) × List Char) :=
  match chars with
  | '.' :: rest => (scanSomeDigits rest).map (fun scanned => (some scanned.1, scanned.2))
  | _ => .ok (none, chars)

def scanExponent (chars : List Char) : Except Fault (Option (Bool × List Nat) × List Char) :=
  match chars with
  | mark :: rest =>
      if mark = 'e' ∨ mark = 'E' then
        match rest with
        | '-' :: rest =>
            (scanSomeDigits rest).map (fun scanned => (some (true, scanned.1), scanned.2))
        | '+' :: rest =>
            (scanSomeDigits rest).map (fun scanned => (some (false, scanned.1), scanned.2))
        | _ => (scanSomeDigits rest).map (fun scanned => (some (false, scanned.1), scanned.2))
      else .ok (none, chars)
  | [] => .ok (none, chars)

/-- Scans a number behind its sign. -/
def scanNumeral (negative : Bool) (chars : List Char) : Except Fault (Numeral × List Char) := do
  let (whole, rest) ← scanWhole chars
  let (fraction, rest) ← scanFraction rest
  let (exponent, rest) ← scanExponent rest
  return ({ negative, whole, fraction, exponent }, rest)

def scanNumber (negative : Bool) (chars : List Char) : Scanned :=
  match scanNumeral negative chars with
  | .ok (numeral, rest) => (.number numeral, rest)
  | .error fault => (.broken fault, [])

/-! ### Words -/

/-- Scans the rest of a fixed word. -/
def scanWord (token : Token) : (expected chars : List Char) → Scanned
  | [], rest => (token, rest)
  | _ :: _, [] => (.broken .endOfText, [])
  | next :: expected, char :: rest =>
      if char = next then scanWord token expected rest else (.broken .malformed, [])

/-! ### Tokens -/

/-- Scans the token that starts with a character, which is not white space. -/
def scan (char : Char) (rest : List Char) : Scanned :=
  match char with
  | '[' => (.openArray, rest)
  | ']' => (.closeArray, rest)
  | '{' => (.openObject, rest)
  | '}' => (.closeObject, rest)
  | ',' => (.comma, rest)
  | ':' => (.colon, rest)
  | '"' => scanText rest
  | 'n' => scanWord .null ['u', 'l', 'l'] rest
  | 't' => scanWord (.boolean true) ['r', 'u', 'e'] rest
  | 'f' => scanWord (.boolean false) ['a', 'l', 's', 'e'] rest
  | '-' => scanNumber true rest
  | _ => if isDigit char then scanNumber false (char :: rest) else (.broken .malformed, [])

/-! ### Scanning consumes its text -/

private theorem withUnit_rest (unit : TextUnit) (scanned : Scanned) :
    (withUnit unit scanned).2 = scanned.2 := by
  unfold withUnit
  split <;> rfl

theorem scanText_rest_le (chars : List Char) : (scanText chars).2.length ≤ chars.length := by
  fun_induction scanText chars <;> simp_all [withUnit_rest] <;> omega

theorem scanSomeDigits_rest_lt {chars : List Char} {scanned : List Nat × List Char}
    (succeeded : scanSomeDigits chars = .ok scanned) : scanned.2.length < chars.length := by
  cases chars with
  | nil => simp [scanSomeDigits] at succeeded
  | cons char rest =>
      simp only [scanSomeDigits] at succeeded
      split at succeeded
      · rename_i digit
        cases succeeded
        have shorter := (List.dropWhile_suffix (l := rest) isDigit).length_le
        simp only [scanDigits, List.dropWhile_cons, digit, if_true, List.length_cons]
        omega
      · simp at succeeded

theorem scanWhole_rest_lt {chars : List Char} {scanned : List Nat × List Char}
    (succeeded : scanWhole chars = .ok scanned) : scanned.2.length < chars.length := by
  unfold scanWhole at succeeded
  split at succeeded
  · split at succeeded
    · split at succeeded
      · simp at succeeded
      · cases succeeded
        simp
    · cases succeeded
      simp
  · exact scanSomeDigits_rest_lt succeeded

private theorem map_some_rest_le {β : Type} {chars : List Char}
    {wrap : List Nat × List Char → Option β × List Char} {scanned : Option β × List Char}
    (keeps : ∀ inner, (wrap inner).2 = inner.2)
    (succeeded : (scanSomeDigits chars).map wrap = .ok scanned) :
    scanned.2.length ≤ chars.length := by
  cases digits : scanSomeDigits chars with
  | error fault => simp [digits, Except.map] at succeeded
  | ok inner =>
      simp only [digits, Except.map, Except.ok.injEq] at succeeded
      rw [← succeeded, keeps]
      exact Nat.le_of_lt (scanSomeDigits_rest_lt digits)

theorem scanFraction_rest_le {chars : List Char} {scanned : Option (List Nat) × List Char}
    (succeeded : scanFraction chars = .ok scanned) : scanned.2.length ≤ chars.length := by
  unfold scanFraction at succeeded
  split at succeeded
  · exact Nat.le_succ_of_le (map_some_rest_le (fun _ => rfl) succeeded)
  · cases succeeded
    exact Nat.le_refl _

theorem scanExponent_rest_le {chars : List Char}
    {scanned : Option (Bool × List Nat) × List Char}
    (succeeded : scanExponent chars = .ok scanned) : scanned.2.length ≤ chars.length := by
  unfold scanExponent at succeeded
  split at succeeded
  · split at succeeded
    · split at succeeded
      · have shorter := map_some_rest_le (fun _ => rfl) succeeded
        simp only [List.length_cons]
        omega
      · have shorter := map_some_rest_le (fun _ => rfl) succeeded
        simp only [List.length_cons]
        omega
      · exact Nat.le_succ_of_le (map_some_rest_le (fun _ => rfl) succeeded)
    · cases succeeded
      exact Nat.le_refl _
  · cases succeeded
    exact Nat.le_refl _

theorem scanNumeral_rest_lt {negative : Bool} {chars : List Char}
    {scanned : Numeral × List Char}
    (succeeded : scanNumeral negative chars = .ok scanned) :
    scanned.2.length < chars.length := by
  unfold scanNumeral at succeeded
  cases whole : scanWhole chars with
  | error fault => simp [whole, bind, Except.bind] at succeeded
  | ok afterWhole =>
      cases fraction : scanFraction afterWhole.2 with
      | error fault => simp [whole, fraction, bind, Except.bind] at succeeded
      | ok afterFraction =>
          cases exponent : scanExponent afterFraction.2 with
          | error fault => simp [whole, fraction, exponent, bind, Except.bind] at succeeded
          | ok afterExponent =>
              simp only [whole, fraction, exponent, bind, Except.bind, pure, Except.pure,
                Except.ok.injEq] at succeeded
              have first := scanWhole_rest_lt whole
              have second := scanFraction_rest_le fraction
              have third := scanExponent_rest_le exponent
              rw [← succeeded]
              simp only
              omega

private theorem scanNumber_rest_le (negative : Bool) (chars : List Char) :
    (scanNumber negative chars).2.length ≤ chars.length - 1 := by
  unfold scanNumber
  split
  · rename_i numeral rest succeeded
    have shorter := scanNumeral_rest_lt succeeded
    simp only at shorter ⊢
    omega
  · simp

theorem scanWord_rest_le (token : Token) (expected chars : List Char) :
    (scanWord token expected chars).2.length ≤ chars.length := by
  induction expected generalizing chars with
  | nil => exact Nat.le_refl _
  | cons next expected shorter =>
      cases chars with
      | nil => exact Nat.le_refl _
      | cons char rest =>
          simp only [scanWord]
          split
          · exact Nat.le_succ_of_le (shorter rest)
          · exact Nat.zero_le _

theorem scan_rest_le (char : Char) (rest : List Char) :
    (scan char rest).2.length ≤ rest.length := by
  unfold scan
  split
  all_goals first
    | exact Nat.le_refl _
    | exact scanText_rest_le rest
    | exact scanWord_rest_le _ _ rest
    | skip
  · exact Nat.le_trans (scanNumber_rest_le true rest) (Nat.sub_le _ _)
  · split
    · exact scanNumber_rest_le false (char :: rest)
    · simp

end Token

/-- The tokens of a text. -/
def tokens : List Char → List Token
  | [] => []
  | char :: rest =>
      if Token.isSpace char then tokens rest
      else
        (Token.scan char rest).1 :: tokens (Token.scan char rest).2
termination_by chars => chars.length
decreasing_by
  · exact Nat.lt_succ_self _
  · exact Nat.lt_succ_of_le (Token.scan_rest_le char rest)

end DeltaRobot.Json
