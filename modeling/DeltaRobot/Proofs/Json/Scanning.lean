import DeltaRobot.Json.Token
import Mathlib.Data.List.TakeWhile

/-!
Contract: where the tokens of a text begin and end.

A token that is not damaged takes up a run of characters of its own, and what follows has no part in
it, except that a number must not be followed by a character that could belong to it. So a text
can be cut between any two of its tokens, and two texts can be put together if no number at the end
of the first one is continued by the second.

Owns: the characters that a token takes up, and the tokens of a text that is cut or put together.
Does not own: which sequences of tokens are a document.
-/

namespace DeltaRobot.Json

/-! ### Results -/

theorem map_eq_ok_iff {ε β γ : Type} {result : Except ε β} {value : γ} {wrap : β → γ} :
    result.map wrap = .ok value ↔ ∃ inner, result = .ok inner ∧ wrap inner = value := by
  cases result with
  | error cause => simp [Except.map]
  | ok inner => simp [Except.map]

theorem bind_eq_ok_iff {ε β γ : Type} {result : Except ε β} {value : γ}
    {next : β → Except ε γ} :
    result >>= next = .ok value ↔ ∃ inner, result = .ok inner ∧ next inner = .ok value := by
  cases result with
  | error cause => simp [bind, Except.bind]
  | ok inner => simp [bind, Except.bind]

namespace Token

/-- Whether a token is not damaged. -/
def isWhole : Token → Bool
  | brokenText _ _ => false
  | broken _ => false
  | _ => true

def isNumber : Token → Bool
  | number _ => true
  | _ => false

/-- The characters that can continue a number. -/
def isNumeric (char : Char) : Bool :=
  isDigit char || char = '.' || char = 'e' || char = 'E'

/-- The text does not start with a character of a kind. -/
def Avoids (kind : Char → Bool) (chars : List Char) : Prop :=
  ∀ char ∈ chars.head?, kind char = false

@[simp]
theorem avoids_nil (kind : Char → Bool) : Avoids kind [] := by simp [Avoids]

@[simp]
theorem avoids_cons {kind : Char → Bool} {char : Char} {chars : List Char} :
    Avoids kind (char :: chars) ↔ kind char = false := by
  simp [Avoids]

theorem Avoids.append {kind : Char → Bool} {chars after : List Char} (first : Avoids kind chars)
    (second : Avoids kind after) : Avoids kind (chars ++ after) := by
  cases chars with
  | nil => exact second
  | cons char chars => exact avoids_cons.2 (avoids_cons.1 first)

theorem Avoids.of_append {kind : Char → Bool} {chars after : List Char}
    (avoids : Avoids kind (chars ++ after)) : Avoids kind chars := by
  cases chars with
  | nil => exact avoids_nil kind
  | cons char chars => exact avoids_cons.2 (avoids_cons.1 avoids)

theorem Avoids.mono {kind wider : Char → Bool} {chars : List Char} (avoids : Avoids wider chars)
    (wide : ∀ char, wider char = false → kind char = false) : Avoids kind chars :=
  fun char isHead => wide char (avoids char isHead)

/-! ### The parts of a number -/

/-- A scanner takes up the given characters and no more, whatever follows that does not start with a
character of the given kind. -/
def Takes {β : Type} (scanner : List Char → Except Fault (β × List Char)) (taken : List Char)
    (value : β) (kind : Char → Bool) : Prop :=
  ∀ after, Avoids kind after → scanner (taken ++ after) = .ok (value, after)

theorem avoids_dropWhile (kind : Char → Bool) (chars : List Char) :
    Avoids kind (chars.dropWhile kind) := by
  intro char isHead
  have notKind := List.head?_dropWhile_not kind chars
  rw [Option.mem_def.1 isHead] at notKind
  exact notKind

theorem scanDigits_append {taken after : List Char} (digits : ∀ char ∈ taken, isDigit char = true)
    (avoids : Avoids isDigit after) :
    scanDigits (taken ++ after) = (taken.map digitValue, after) := by
  have stops : after.takeWhile isDigit = [] ∧ after.dropWhile isDigit = after := by
    cases after with
    | nil => exact ⟨rfl, rfl⟩
    | cons char after => simp [avoids_cons.1 avoids]
  rw [scanDigits, List.takeWhile_append_of_pos digits, List.dropWhile_append_of_pos digits,
    stops.1, stops.2, List.append_nil]

theorem scanSomeDigits_takes {chars rest : List Char} {digits : List Nat}
    (scanned : scanSomeDigits chars = .ok (digits, rest)) :
    ∃ char taken, chars = char :: taken ++ rest ∧ isDigit char = true ∧ Avoids isDigit rest ∧
      Takes scanSomeDigits (char :: taken) digits isDigit := by
  cases chars with
  | nil => cases scanned
  | cons char chars =>
      rw [scanSomeDigits] at scanned
      split at scanned
      · rename_i isFirst
        have areDigits : ∀ other ∈ char :: chars.takeWhile isDigit, isDigit other = true := by
          rintro other (_ | ⟨_, member⟩)
          · exact isFirst
          · exact List.mem_takeWhile_imp member
        have all : scanDigits (char :: chars) =
            ((char :: chars.takeWhile isDigit).map digitValue, chars.dropWhile isDigit) := by
          simp [scanDigits, isFirst]
        rw [all] at scanned
        cases scanned
        refine ⟨char, chars.takeWhile isDigit, ?_, isFirst, avoids_dropWhile isDigit chars,
          fun after avoids => ?_⟩
        · rw [List.cons_append, List.takeWhile_append_dropWhile]
        · rw [List.cons_append, scanSomeDigits, if_pos isFirst, ← List.cons_append,
            scanDigits_append areDigits avoids]
      · cases scanned

/-- A zero at the front takes up one character. -/
theorem scanWhole_takes {chars rest : List Char} {digits : List Nat}
    (scanned : scanWhole chars = .ok (digits, rest)) :
    ∃ char taken, chars = char :: taken ++ rest ∧ Avoids isDigit rest ∧
      Takes scanWhole (char :: taken) digits isDigit := by
  unfold scanWhole at scanned
  split at scanned
  · rename_i after
    have alone : Avoids isDigit after ∧ [0] = digits ∧ after = rest := by
      cases after with
      | nil =>
          cases scanned
          exact ⟨avoids_nil _, rfl, rfl⟩
      | cons next after =>
          by_cases isNext : isDigit next = true
          · simp [isNext] at scanned
          · simp only [isNext] at scanned
            cases scanned
            exact ⟨by simpa using isNext, rfl, rfl⟩
    obtain ⟨avoids, rfl, rfl⟩ := alone
    refine ⟨'0', [], rfl, avoids, fun after avoids => ?_⟩
    cases after with
    | nil => rfl
    | cons next after => simp [scanWhole, avoids_cons.1 avoids]
  · rename_i notZero
    obtain ⟨char, taken, rfl, -, avoids, takes⟩ := scanSomeDigits_takes scanned
    refine ⟨char, taken, rfl, avoids, fun after stops => ?_⟩
    have first : char ≠ '0' := fun isZero => notZero (taken ++ rest) (by rw [isZero]; rfl)
    rw [← takes after stops, List.cons_append]
    unfold scanWhole
    split
    · rename_i same
      cases same
      exact absurd rfl first
    · rfl

/-- An optional part starts with its mark, or is not there at all. -/
def IsPart (mark : Char → Prop) (chars rest taken : List Char) : Prop :=
  (taken = [] ∧ chars = rest) ∨
    ((∃ char others, taken = char :: others ∧ mark char) ∧ chars = taken ++ rest ∧
      Avoids isDigit rest)

theorem scanFraction_takes {chars rest : List Char} {fraction : Option (List Nat)}
    (scanned : scanFraction chars = .ok (fraction, rest)) :
    ∃ taken, IsPart (· = '.') chars rest taken ∧
      Takes scanFraction taken fraction (fun char => isDigit char || char = '.') := by
  unfold scanFraction at scanned
  split at scanned
  · obtain ⟨found, digits, same⟩ := map_eq_ok_iff.1 scanned
    cases same
    obtain ⟨char, taken, rfl, -, avoids, takes⟩ := scanSomeDigits_takes digits
    refine ⟨'.' :: char :: taken, .inr ⟨⟨_, _, rfl, rfl⟩, rfl, avoids⟩, fun after stops => ?_⟩
    have same := takes after (stops.mono fun other => by simp +contextual)
    simp only [List.cons_append] at same ⊢
    rw [scanFraction, same]
    rfl
  · cases scanned
    refine ⟨[], .inl ⟨rfl, rfl⟩, fun after stops => ?_⟩
    rw [List.nil_append]
    unfold scanFraction
    split
    · simp at stops
    · rfl

/-- The digits of an exponent, behind its sign. -/
def scanSigned (negative : Bool) (chars : List Char) :
    Except Fault (Option (Bool × List Nat) × List Char) :=
  (scanSomeDigits chars).map (fun scanned => (some (negative, scanned.1), scanned.2))

/-- An exponent behind its mark. -/
def scanPower (chars : List Char) : Except Fault (Option (Bool × List Nat) × List Char) :=
  match chars with
  | '-' :: rest => scanSigned true rest
  | '+' :: rest => scanSigned false rest
  | _ => scanSigned false chars

theorem scanExponent_cons (mark : Char) (chars : List Char) :
    scanExponent (mark :: chars) =
      if mark = 'e' ∨ mark = 'E' then scanPower chars else .ok (none, mark :: chars) := rfl

theorem scanSigned_takes {negative : Bool} {chars rest : List Char}
    {exponent : Option (Bool × List Nat)}
    (scanned : scanSigned negative chars = .ok (exponent, rest)) :
    ∃ char taken, chars = char :: taken ++ rest ∧ isDigit char = true ∧ Avoids isDigit rest ∧
      Takes (scanSigned negative) (char :: taken) exponent isDigit := by
  obtain ⟨found, digits, same⟩ := map_eq_ok_iff.1 scanned
  cases same
  obtain ⟨char, taken, isTaken, isFirst, avoids, takes⟩ := scanSomeDigits_takes digits
  refine ⟨char, taken, isTaken, isFirst, avoids, fun after stops => ?_⟩
  rw [scanSigned, takes after stops]
  rfl

theorem scanPower_takes {chars rest : List Char} {exponent : Option (Bool × List Nat)}
    (scanned : scanPower chars = .ok (exponent, rest)) :
    ∃ taken, chars = taken ++ rest ∧ Avoids isDigit rest ∧
      Takes scanPower taken exponent isDigit := by
  unfold scanPower at scanned
  split at scanned
  all_goals obtain ⟨char, taken, rfl, isFirst, avoids, takes⟩ := scanSigned_takes scanned
  · exact ⟨'-' :: char :: taken, rfl, avoids, takes⟩
  · exact ⟨'+' :: char :: taken, rfl, avoids, takes⟩
  · refine ⟨char :: taken, rfl, avoids, fun after stops => ?_⟩
    rw [← takes after stops]
    unfold scanPower
    -- A digit is no sign.
    split
    · rename_i isMinus
      cases isMinus
      cases isFirst
    · rename_i isPlus
      cases isPlus
      cases isFirst
    · rfl

theorem scanExponent_takes {chars rest : List Char} {exponent : Option (Bool × List Nat)}
    (scanned : scanExponent chars = .ok (exponent, rest)) :
    ∃ taken, IsPart (fun char => char = 'e' ∨ char = 'E') chars rest taken ∧
      Takes scanExponent taken exponent
        (fun char => isDigit char || (char = 'e' || char = 'E')) := by
  have absent : Takes scanExponent [] none
      (fun char => isDigit char || (char = 'e' || char = 'E')) := by
    intro after stops
    cases after with
    | nil => rfl
    | cons char after =>
        have other : ¬ (char = 'e' ∨ char = 'E') := by
          have stops := avoids_cons.1 stops
          simp only [Bool.or_eq_false_iff, decide_eq_false_iff_not] at stops
          exact not_or.2 stops.2
        rw [List.nil_append, scanExponent_cons, if_neg other]
  cases chars with
  | nil =>
      cases scanned
      exact ⟨[], .inl ⟨rfl, rfl⟩, absent⟩
  | cons mark behind =>
      rw [scanExponent_cons] at scanned
      split at scanned
      · rename_i isMark
        obtain ⟨taken, rfl, avoids, takes⟩ := scanPower_takes scanned
        refine ⟨mark :: taken, .inr ⟨⟨_, _, rfl, isMark⟩, rfl, avoids⟩, fun after stops => ?_⟩
        rw [List.cons_append, scanExponent_cons, if_pos isMark]
        exact takes after (stops.mono fun char => by simp +contextual)
      · cases scanned
        exact ⟨[], .inl ⟨rfl, rfl⟩, absent⟩

/-! ### Numbers -/

theorem IsPart.append {mark : Char → Prop} {chars rest taken : List Char}
    (isPart : IsPart mark chars rest taken) : chars = taken ++ rest := by
  rcases isPart with ⟨rfl, rfl⟩ | ⟨-, same, -⟩
  · rfl
  · exact same

theorem IsPart.avoids {mark : Char → Prop} {chars rest taken : List Char}
    (isPart : IsPart mark chars rest taken) (before : Avoids isDigit chars) :
    Avoids isDigit rest := by
  rcases isPart with ⟨-, rfl⟩ | ⟨-, -, after⟩
  · exact before
  · exact after

/-- A part that starts with its mark does not continue the parts in front of it. -/
theorem IsPart.avoids_append {mark : Char → Prop} {kind : Char → Bool}
    {chars rest taken after : List Char} (isPart : IsPart mark chars rest taken)
    (unmarked : ∀ char, mark char → kind char = false) (stops : Avoids kind after) :
    Avoids kind (taken ++ after) := by
  rcases isPart with ⟨rfl, -⟩ | ⟨⟨char, others, rfl, isMark⟩, -, -⟩
  · exact stops
  · exact avoids_cons.2 (unmarked char isMark)

theorem scanNumeral_takes {negative : Bool} {chars rest : List Char} {numeral : Numeral}
    (scanned : scanNumeral negative chars = .ok (numeral, rest)) :
    ∃ char taken, chars = char :: taken ++ rest ∧ Avoids isDigit rest ∧
      Takes (scanNumeral negative) (char :: taken) numeral isNumeric := by
  unfold scanNumeral at scanned
  obtain ⟨⟨whole, afterWhole⟩, isWhole, scanned⟩ := bind_eq_ok_iff.1 scanned
  obtain ⟨⟨fraction, afterFraction⟩, isFraction, scanned⟩ := bind_eq_ok_iff.1 scanned
  obtain ⟨⟨exponent, afterExponent⟩, isExponent, scanned⟩ := bind_eq_ok_iff.1 scanned
  cases scanned
  obtain ⟨char, first, rfl, avoids, takesWhole⟩ := scanWhole_takes isWhole
  obtain ⟨second, secondPart, takesFraction⟩ := scanFraction_takes isFraction
  obtain ⟨third, thirdPart, takesExponent⟩ := scanExponent_takes isExponent
  refine ⟨char, first ++ (second ++ third), ?_,
    thirdPart.avoids (secondPart.avoids avoids), fun after stops => ?_⟩
  · rw [secondPart.append, thirdPart.append]
    simp
  · have exponentStops : Avoids (fun char => isDigit char || (char = 'e' || char = 'E')) after :=
      stops.mono fun char => by simp +contextual [isNumeric]
    have fractionStops : Avoids (fun char => isDigit char || char = '.') (third ++ after) :=
      thirdPart.avoids_append (by rintro char (rfl | rfl) <;> decide)
        (stops.mono fun char => by simp +contextual [isNumeric])
    have wholeStops : Avoids isDigit (second ++ (third ++ after)) :=
      secondPart.avoids_append (by rintro char rfl; decide)
        (fractionStops.mono fun char => by simp +contextual)
    have all : char :: (first ++ (second ++ third)) ++ after =
        char :: first ++ (second ++ (third ++ after)) := by simp
    rw [all, scanNumeral, takesWhole _ wholeStops]
    dsimp only [bind, Except.bind]
    rw [takesFraction _ fractionStops]
    dsimp only
    rw [takesExponent _ exponentStops]
    rfl

theorem scanNumber_takes {negative : Bool} {chars rest : List Char} {token : Token}
    (scanned : scanNumber negative chars = (token, rest)) (whole : token.isWhole = true) :
    token.isNumber = true ∧ ∃ char taken, chars = char :: taken ++ rest ∧ Avoids isDigit rest ∧
      ∀ after, Avoids isNumeric after →
        scanNumber negative (char :: taken ++ after) = (token, after) := by
  unfold scanNumber at scanned
  split at scanned
  · rename_i numeral behind isNumeral
    cases scanned
    obtain ⟨char, taken, isTaken, avoids, takes⟩ := scanNumeral_takes isNumeral
    refine ⟨rfl, char, taken, isTaken, avoids, fun after stops => ?_⟩
    rw [scanNumber, takes after stops]
  · cases scanned
    cases whole

/-! ### Texts and words -/

theorem withUnit_eq_text {unit : TextUnit} {scanned : Scanned} {units : List TextUnit}
    {rest : List Char} (same : withUnit unit scanned = (.text units, rest)) :
    ∃ others, units = unit :: others ∧ scanned = (.text others, rest) := by
  unfold withUnit at same
  split at same
  · cases same
    exact ⟨_, rfl, rfl⟩
  · cases same
  · rename_i other _
    exact absurd same (other units rest)

theorem scanText_escape {letter char : Char} (isEscape : escaped? letter = some char)
    (rest : List Char) :
    scanText ('\\' :: letter :: rest) = withUnit (.plain char) (scanText rest) := by
  rw [scanText, isEscape]
  rintro rfl
  cases isEscape

theorem scanText_plain {char : Char} (notQuote : char ≠ '"') (notSlash : char ≠ '\\')
    (printable : ¬ char.toNat < 32) (rest : List Char) :
    scanText (char :: rest) = withUnit (.plain char) (scanText rest) := by
  simp [scanText, notSlash, printable]

theorem scanText_takes {chars rest : List Char} {units : List TextUnit}
    (scanned : scanText chars = (.text units, rest)) :
    ∃ taken, chars = taken ++ rest ∧ ∀ after, scanText (taken ++ after) = (.text units, after) := by
  fun_induction scanText chars generalizing units with
  | case1 => cases scanned
  | case2 rest =>
      cases scanned
      exact ⟨['"'], rfl, fun after => by simp [scanText]⟩
  | case3 => cases scanned
  | case4 => cases scanned
  | case5 first second third fourth rest code isCode bytes inductionHypothesis =>
      obtain ⟨others, rfl, isRest⟩ := withUnit_eq_text scanned
      obtain ⟨taken, rfl, takes⟩ := inductionHypothesis isRest
      refine ⟨'\\' :: 'u' :: first :: second :: third :: fourth :: taken, rfl, fun after => ?_⟩
      simp only [List.take_succ_cons, List.take_zero] at bytes
      simp only [List.cons_append, scanText, List.take_succ_cons, List.take_zero, if_neg bytes,
        isCode, takes after]
      rfl
  | case6 => cases scanned
  | case7 => cases scanned
  | case8 letter rest notUnit char isEscape inductionHypothesis =>
      obtain ⟨others, rfl, isRest⟩ := withUnit_eq_text scanned
      obtain ⟨taken, rfl, takes⟩ := inductionHypothesis isRest
      refine ⟨'\\' :: letter :: taken, rfl, fun after => ?_⟩
      rw [List.cons_append, List.cons_append, scanText_escape isEscape, takes after]
      rfl
  | case9 => cases scanned
  | case10 => cases scanned
  | case11 char rest notQuote notLast notUnit notEscape printable inductionHypothesis =>
      have notSlash : char ≠ '\\' := by
        intro isSlash
        cases rest with
        | nil => exact notLast isSlash rfl
        | cons letter rest => exact notEscape letter rest isSlash rfl
      obtain ⟨others, rfl, isRest⟩ := withUnit_eq_text scanned
      obtain ⟨taken, rfl, takes⟩ := inductionHypothesis isRest
      refine ⟨char :: taken, rfl, fun after => ?_⟩
      rw [List.cons_append, scanText_plain notQuote notSlash printable, takes after]
      rfl

/-- Behind a quote there is a text, whole or broken. -/
theorem scanText_cases (chars : List Char) :
    (∃ units rest, scanText chars = (.text units, rest)) ∨
      ∃ units fault rest, scanText chars = (.brokenText units fault, rest) := by
  have kept {unit : TextUnit} {scanned : Scanned}
      (cases : (∃ units rest, scanned = (.text units, rest)) ∨
        ∃ units fault rest, scanned = (.brokenText units fault, rest)) :
      (∃ units rest, withUnit unit scanned = (.text units, rest)) ∨
        ∃ units fault rest, withUnit unit scanned = (.brokenText units fault, rest) := by
    rcases cases with ⟨units, rest, rfl⟩ | ⟨units, fault, rest, rfl⟩
    · exact .inl ⟨_, _, rfl⟩
    · exact .inr ⟨_, _, _, rfl⟩
  fun_induction scanText chars with
  | case2 => exact .inl ⟨_, _, rfl⟩
  | case5 | case8 | case11 => exact kept (by assumption)
  | _ => exact .inr ⟨_, _, _, rfl⟩

theorem scanWord_takes {token : Token} {expected chars : List Char}
    (whole : (scanWord token expected chars).1.isWhole = true) :
    (scanWord token expected chars).1 = token ∧
      chars = expected ++ (scanWord token expected chars).2 := by
  induction expected generalizing chars with
  | nil => exact ⟨rfl, rfl⟩
  | cons next expected inductionHypothesis =>
      cases chars with
      | nil => cases whole
      | cons char rest =>
          rw [scanWord] at whole ⊢
          split at whole
          · rename_i same
            obtain ⟨isToken, isRest⟩ := inductionHypothesis whole
            rw [if_pos same, same]
            exact ⟨isToken, congrArg (List.cons next) isRest⟩
          · cases whole

theorem scanWord_append (token : Token) (expected after : List Char) :
    scanWord token expected (expected ++ after) = (token, after) := by
  induction expected with
  | nil => rfl
  | cons next expected inductionHypothesis =>
      rw [List.cons_append, scanWord, if_pos rfl, inductionHypothesis]

/-! ### One token -/

theorem scan_digit {char : Char} (digit : isDigit char = true) (rest : List Char) :
    scan char rest = scanNumber false (char :: rest) := by
  unfold scan
  split <;> first | cases digit | skip
  rw [if_pos digit]

/-- A token takes up its first character and a run of those behind it, whatever follows that does
not continue a number. -/
def TakesUp (char : Char) (chars rest : List Char) (token : Token) : Prop :=
  ∃ taken, chars = taken ++ rest ∧ (token.isNumber = true → Avoids isDigit rest) ∧
    ∀ after, (token.isNumber = true → Avoids isNumeric after) →
      scan char (taken ++ after) = (token, after)

theorem TakesUp.of_single {char : Char} {rest : List Char} {token : Token}
    (single : ∀ after, scan char after = (token, after)) (notNumber : token.isNumber = false) :
    TakesUp char rest rest token :=
  ⟨[], rfl, by simp [notNumber], fun after _ => single after⟩

theorem TakesUp.of_word {char : Char} {expected chars rest : List Char} {word token : Token}
    (scanned : scanWord word expected chars = (token, rest)) (whole : token.isWhole = true)
    (notNumber : word.isNumber = false)
    (isScan : ∀ after, scan char after = scanWord word expected after) :
    TakesUp char chars rest token := by
  obtain ⟨isToken, isRest⟩ := scanWord_takes (by rwa [scanned])
  rw [scanned] at isToken isRest
  subst isToken
  refine ⟨expected, isRest, by simp [notNumber], fun after _ => ?_⟩
  rw [isScan, scanWord_append]

theorem scan_takes {char : Char} {chars rest : List Char} {token : Token}
    (scanned : scan char chars = (token, rest)) (whole : token.isWhole = true) :
    TakesUp char chars rest token := by
  unfold scan at scanned
  split at scanned
  case h_1 | h_2 | h_3 | h_4 | h_5 | h_6 =>
    cases scanned
    exact .of_single (fun _ => rfl) rfl
  case h_7 =>
    rcases scanText_cases chars with ⟨units, behind, isText⟩ | ⟨units, fault, behind, isBroken⟩
    · rw [isText] at scanned
      cases scanned
      obtain ⟨taken, isTaken, takes⟩ := scanText_takes isText
      exact ⟨taken, isTaken, nofun, fun after _ => takes after⟩
    · rw [isBroken] at scanned
      cases scanned
      cases whole
  case h_8 | h_9 | h_10 => exact .of_word scanned whole rfl (fun _ => rfl)
  case h_11 =>
    obtain ⟨isNumber, first, taken, isTaken, avoids, takes⟩ := scanNumber_takes scanned whole
    exact ⟨first :: taken, isTaken, fun _ => avoids,
      fun after stops => takes after (stops isNumber)⟩
  case h_12 =>
    split at scanned
    · rename_i digit
      obtain ⟨isNumber, first, taken, isTaken, avoids, takes⟩ := scanNumber_takes scanned whole
      cases isTaken
      refine ⟨taken, rfl, fun _ => avoids, fun after stops => ?_⟩
      rw [scan_digit digit]
      exact takes after (stops isNumber)
    · cases scanned
      cases whole

/-- Every character that starts a token stops a number, if it is not a digit. -/
theorem avoids_numeric_of_scan {char : Char} {chars : List Char}
    (whole : (scan char chars).1.isWhole = true) (notDigit : isDigit char = false) :
    isNumeric char = false := by
  have other (start : Char) (broken : scan start chars = (.broken .malformed, [])) :
      char ≠ start := by
    rintro rfl
    rw [broken] at whole
    cases whole
  simp [isNumeric, notDigit, other '.' rfl, other 'e' rfl, other 'E' rfl]

/-- The character that a token of one character is. -/
def mark? : Token → Option Char
  | openArray => some '['
  | closeArray => some ']'
  | openObject => some '{'
  | closeObject => some '}'
  | comma => some ','
  | colon => some ':'
  | _ => none

theorem scan_mark {char mark : Char} {chars rest : List Char} {token : Token}
    (scanned : scan char chars = (token, rest)) (isMark : token.mark? = some mark) :
    char = mark ∧ rest = chars := by
  have word {found : Token} {expected : List Char} (unmarked : found.mark? = none) :
      scanWord found expected chars ≠ (token, rest) := by
    intro same
    have whole : token.isWhole = true := by
      cases token <;> first | rfl | cases isMark
    have isFound := (scanWord_takes (by rwa [same])).1
    rw [same] at isFound
    change token = found at isFound
    rw [isFound, unmarked] at isMark
    cases isMark
  have number {negative : Bool} {digits : List Char} :
      scanNumber negative digits ≠ (token, rest) := by
    rw [scanNumber]
    split <;> rintro ⟨⟩ <;> cases isMark
  unfold scan at scanned
  split at scanned
  case h_1 | h_2 | h_3 | h_4 | h_5 | h_6 =>
    cases scanned
    cases isMark
    exact ⟨rfl, rfl⟩
  case h_7 =>
    rcases scanText_cases chars with ⟨units, behind, same⟩ | ⟨units, fault, behind, same⟩ <;>
      rw [same] at scanned <;> cases scanned <;> cases isMark
  case h_8 | h_9 | h_10 => exact absurd scanned (word rfl)
  case h_11 => exact absurd scanned number
  case h_12 =>
    split at scanned
    · exact absurd scanned number
    · cases scanned
      cases isMark

theorem isSpace_stops {char : Char} (space : isSpace char = true) : isNumeric char = false := by
  simp only [isSpace, Bool.or_eq_true, decide_eq_true_iff] at space
  rcases space with ((rfl | rfl) | rfl) | rfl <;> rfl

end Token

/-! ### The tokens of a text -/

open Token (isSpace isNumeric isDigit Avoids scan)

/-- No token of the text is damaged. -/
def Undamaged (chars : List Char) : Prop := ∀ token ∈ tokens chars, token.isWhole = true

theorem tokens_nil : tokens [] = [] := by rw [tokens]

theorem tokens_space {char : Char} (space : isSpace char = true) (chars : List Char) :
    tokens (char :: chars) = tokens chars := by
  rw [tokens, if_pos space]

theorem tokens_scan {char : Char} {chars rest : List Char} {token : Token}
    (notSpace : isSpace char = false) (scanned : scan char chars = (token, rest)) :
    tokens (char :: chars) = token :: tokens rest := by
  rw [tokens, if_neg (by simp [notSpace]), scanned]

/-- The tokens of a text, one step at a time. -/
theorem tokens_induction {motive : List Char → Prop} (nil : motive [])
    (space : ∀ char chars, isSpace char = true → motive chars → motive (char :: chars))
    (token : ∀ char chars found rest, isSpace char = false → scan char chars = (found, rest) →
      motive rest → motive (char :: chars)) (chars : List Char) : motive chars := by
  induction length : chars.length using Nat.strong_induction_on generalizing chars with
  | _ size inductionHypothesis =>
      cases chars with
      | nil => exact nil
      | cons char chars =>
          cases isSpaceChar : isSpace char with
          | true =>
              exact space char chars isSpaceChar
                (inductionHypothesis _ (by simp [← length]) _ rfl)
          | false =>
              refine token char chars (scan char chars).1 (scan char chars).2 isSpaceChar rfl
                (inductionHypothesis _ ?_ _ rfl)
              have shorter := Token.scan_rest_le char chars
              rw [← length, List.length_cons]
              omega

/-- White space alone. -/
def Blank (chars : List Char) : Prop := ∀ char ∈ chars, isSpace char = true

theorem tokens_blank {blank : List Char} (isBlank : Blank blank) (chars : List Char) :
    tokens (blank ++ chars) = tokens chars := by
  induction blank with
  | nil => rfl
  | cons char blank inductionHypothesis =>
      rw [List.cons_append, tokens_space (isBlank char List.mem_cons_self)]
      exact inductionHypothesis fun other member => isBlank other (List.mem_cons_of_mem _ member)

theorem tokens_eq_nil_iff {chars : List Char} : tokens chars = [] ↔ Blank chars := by
  induction chars using tokens_induction with
  | nil => simp [tokens_nil, Blank]
  | space char chars space inductionHypothesis =>
      rw [tokens_space space, inductionHypothesis, Blank, Blank, List.forall_mem_cons,
        and_iff_right space]
  | token char chars token rest notSpace scanned inductionHypothesis =>
      simp [tokens_scan notSpace scanned, Blank, notSpace]

theorem tokens_mark {token : Token} {mark : Char} (isMark : token.mark? = some mark)
    (chars : List Char) : tokens (mark :: chars) = token :: tokens chars := by
  have scanned : isSpace mark = false ∧ scan mark chars = (token, chars) := by
    cases token <;> cases isMark <;> exact ⟨rfl, rfl⟩
  exact tokens_scan scanned.1 scanned.2

/-- A token of one character is found behind white space alone. -/
theorem tokens_eq_mark_cons_iff {token : Token} {mark : Char} (isMark : token.mark? = some mark)
    {chars : List Char} {right : List Token} :
    tokens chars = token :: right ↔
      ∃ blank rest, Blank blank ∧ chars = blank ++ mark :: rest ∧ tokens rest = right := by
  constructor
  · intro isFirst
    induction chars using tokens_induction with
    | nil => simp [tokens_nil] at isFirst
    | space char chars space inductionHypothesis =>
        rw [tokens_space space] at isFirst
        obtain ⟨blank, rest, isBlank, rfl, isRest⟩ := inductionHypothesis isFirst
        exact ⟨char :: blank, rest, List.forall_mem_cons.2 ⟨space, isBlank⟩, rfl, isRest⟩
    | token char chars found rest notSpace scanned inductionHypothesis =>
        rw [tokens_scan notSpace scanned] at isFirst
        cases isFirst
        obtain ⟨rfl, rfl⟩ := Token.scan_mark scanned isMark
        exact ⟨[], rest, by simp [Blank], rfl, rfl⟩
  · rintro ⟨blank, rest, isBlank, rfl, rfl⟩
    rw [tokens_blank isBlank, tokens_mark isMark]

/-- What follows a number in an undamaged text does not continue it. -/
theorem Undamaged.avoids {chars : List Char} (undamaged : Undamaged chars)
    (avoids : Avoids isDigit chars) : Avoids isNumeric chars := by
  cases chars with
  | nil => exact Token.avoids_nil _
  | cons char chars =>
      rw [Token.avoids_cons] at avoids ⊢
      cases isSpaceChar : isSpace char with
      | true => exact Token.isSpace_stops isSpaceChar
      | false =>
          have first : tokens (char :: chars) =
              (scan char chars).1 :: tokens (scan char chars).2 := tokens_scan isSpaceChar rfl
          rw [Undamaged, first] at undamaged
          exact Token.avoids_numeric_of_scan (undamaged _ List.mem_cons_self) avoids

/-- Two texts that are put together have the tokens of both. -/
theorem tokens_append {chars after : List Char} (undamaged : Undamaged chars)
    (stops : Avoids isNumeric after) : tokens (chars ++ after) = tokens chars ++ tokens after := by
  induction chars using tokens_induction with
  | nil => rw [tokens_nil]; rfl
  | space char chars space inductionHypothesis =>
      rw [List.cons_append, tokens_space space, tokens_space space]
      exact inductionHypothesis fun token member => undamaged token (by rwa [tokens_space space])
  | token char chars token rest notSpace scanned inductionHypothesis =>
      rw [Undamaged, tokens_scan notSpace scanned] at undamaged
      have others : Undamaged rest := fun other member =>
        undamaged other (List.mem_cons_of_mem _ member)
      obtain ⟨taken, rfl, avoids, takes⟩ :=
        Token.scan_takes scanned (undamaged token List.mem_cons_self)
      have again := takes (rest ++ after) fun isNumber =>
        (others.avoids (avoids isNumber)).append stops
      rw [List.cons_append, List.append_assoc, tokens_scan notSpace again,
        tokens_scan notSpace scanned, inductionHypothesis others, List.cons_append]

theorem Blank.avoids {blank : List Char} (isBlank : Blank blank) : Avoids isNumeric blank := by
  intro char isHead
  exact Token.isSpace_stops (isBlank char (List.mem_of_mem_head? isHead))

/-- White space at the end has no tokens either. -/
theorem tokens_append_blank {chars blank : List Char} (undamaged : Undamaged chars)
    (isBlank : Blank blank) : tokens (chars ++ blank) = tokens chars := by
  rw [tokens_append undamaged isBlank.avoids, tokens_eq_nil_iff.2 isBlank, List.append_nil]

/-- A text can be cut behind any of its tokens. -/
theorem exists_cut {chars : List Char} {left right : List Token}
    (cut : tokens chars = left ++ right) (whole : ∀ token ∈ left, token.isWhole = true) :
    ∃ before after, chars = before ++ after ∧ tokens before = left ∧ tokens after = right := by
  induction chars using tokens_induction generalizing left with
  | nil =>
      rw [tokens_nil] at cut
      obtain ⟨rfl, rfl⟩ := List.append_eq_nil_iff.1 cut.symm
      exact ⟨[], [], rfl, tokens_nil, tokens_nil⟩
  | space char chars space inductionHypothesis =>
      rw [tokens_space space] at cut
      obtain ⟨before, after, rfl, isBefore, isAfter⟩ := inductionHypothesis cut whole
      exact ⟨char :: before, after, rfl, by rw [tokens_space space, isBefore], isAfter⟩
  | token char chars token rest notSpace scanned inductionHypothesis =>
      cases left with
      | nil => exact ⟨[], char :: chars, rfl, tokens_nil, cut⟩
      | cons first left =>
          rw [tokens_scan notSpace scanned, List.cons_append] at cut
          obtain ⟨rfl, others⟩ := List.cons.inj cut
          have wholeLeft : ∀ other ∈ left, other.isWhole = true := fun other member =>
            whole other (List.mem_cons_of_mem _ member)
          obtain ⟨before, after, rfl, isBefore, isAfter⟩ := inductionHypothesis others wholeLeft
          obtain ⟨taken, rfl, avoids, takes⟩ :=
            Token.scan_takes scanned (whole token List.mem_cons_self)
          have undamaged : Undamaged before := by rwa [Undamaged, isBefore]
          have again := takes before fun isNumber => undamaged.avoids (avoids isNumber).of_append
          refine ⟨char :: (taken ++ before), after, by simp, ?_, isAfter⟩
          rw [tokens_scan notSpace again, isBefore]

end DeltaRobot.Json
