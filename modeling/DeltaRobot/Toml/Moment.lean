import DeltaRobot.Decimal.Digits

/-!
Contract: dates and times as TOML writes them.

A moment is a date, a time, or both, and with both it may say how far it is from universal time.
Its text is the normal one: seconds with as many decimals as they need, a capital letter between
the parts.

Owns: `Moment`, `Moment.ofText?` and `Moment.render`.
Does not own: which tokens of a file belong to a moment.
-/

namespace DeltaRobot.Toml

structure Date where
  year : Nat
  month : Nat
  day : Nat
deriving DecidableEq, Repr

structure Time where
  hour : Nat
  minute : Nat
  second : Nat
  nanosecond : Nat
deriving DecidableEq, Repr

inductive Offset where
  | universal
  | custom (negative : Bool) (hours minutes : Nat)
deriving DecidableEq, Repr

structure Moment where
  date : Option Date
  time : Option Time
  offset : Option Offset
deriving DecidableEq, Repr

namespace Moment

/-- A number of exactly `width` digits. -/
def number? : Nat → List Char → Option (Nat × List Char)
  | width, chars =>
      let digits := chars.take width
      if digits.length = width ∧ digits.all Char.isDigit then
        some (digits.foldl (fun value digit => value * 10 + (digit.toNat - '0'.toNat)) 0,
          chars.drop width)
      else none

def expect? (char : Char) (chars : List Char) : Option (List Char) :=
  match chars with
  | first :: rest => if first = char then some rest else none
  | [] => none

def date? (chars : List Char) : Option (Date × List Char) := do
  let (year, chars) ← number? 4 chars
  let chars ← expect? '-' chars
  let (month, chars) ← number? 2 chars
  let chars ← expect? '-' chars
  let (day, chars) ← number? 2 chars
  if 1 ≤ month ∧ month ≤ 12 ∧ 1 ≤ day ∧ day ≤ 31 then some (⟨year, month, day⟩, chars) else none

/-- The decimals of a second. Digits behind the ninth are dropped. -/
def nanoseconds? (chars : List Char) : Option (Nat × List Char) :=
  match chars with
  | '.' :: rest =>
      let digits := rest.takeWhile Char.isDigit
      if digits.isEmpty then none
      else
        (number? 9 (digits.take 9 ++ List.replicate (9 - digits.length) '0')).map
          (fun found => (found.1, rest.dropWhile Char.isDigit))
  | _ => some (0, chars)

def time? (chars : List Char) : Option (Time × List Char) := do
  let (hour, chars) ← number? 2 chars
  let chars ← expect? ':' chars
  let (minute, chars) ← number? 2 chars
  let chars ← expect? ':' chars
  let (second, chars) ← number? 2 chars
  let (nanosecond, chars) ← nanoseconds? chars
  if hour ≤ 24 ∧ minute ≤ 59 ∧ second ≤ 59 then
    some (⟨hour, minute, second, nanosecond⟩, chars)
  else none

def offset? (chars : List Char) : Option (Option Offset × List Char) :=
  match chars with
  | [] => some (none, [])
  | sign :: rest =>
      if sign = 'Z' ∨ sign = 'z' then some (some .universal, rest)
      else if sign = '+' ∨ sign = '-' then do
        let (hours, rest) ← number? 2 rest
        let rest ← expect? ':' rest
        let (minutes, rest) ← number? 2 rest
        return (some (.custom (sign = '-') hours minutes), rest)
      else none

/-- What may follow a date: a time behind a separator, with or without an offset. -/
def timeOfDay? (date : Date) (chars : List Char) : Option (Moment × List Char) :=
  match chars with
  | separator :: rest =>
      if separator = 'T' ∨ separator = 't' ∨ separator = ' ' then do
        let (time, rest) ← time? rest
        let (offset, rest) ← offset? rest
        return (⟨some date, some time, offset⟩, rest)
      else some (⟨some date, none, none⟩, chars)
  | [] => some (⟨some date, none, none⟩, [])

/-- The moment that a text spells. A colon at the third place tells a time from a date. Only a time
behind a date may have an offset. -/
def ofText? (chars : List Char) : Option Moment := do
  let (moment, rest) ←
    if chars[2]? = some ':' then
      (time? chars).map (fun found => ((⟨none, some found.1, none⟩ : Moment), found.2))
    else do
      let (date, rest) ← date? chars
      timeOfDay? date rest
  if rest.isEmpty then some moment else none

/-! ### Text -/

def renderDate (date : Date) : List Char :=
  Decimal.padded 4 date.year ++ '-' :: Decimal.padded 2 date.month ++
    '-' :: Decimal.padded 2 date.day

/-- The nine decimals of a second without the zeros at their end. -/
def renderNanoseconds (nanosecond : Nat) : List Char :=
  if nanosecond = 0 then []
  else '.' :: ((Decimal.padded 9 nanosecond).reverse.dropWhile (· = '0')).reverse

def renderTime (time : Time) : List Char :=
  Decimal.padded 2 time.hour ++ ':' :: Decimal.padded 2 time.minute ++
    ':' :: Decimal.padded 2 time.second ++ renderNanoseconds time.nanosecond

/-- An offset of less than an hour shows no minus sign, since the sign belongs to the hours. -/
def renderOffset : Offset → List Char
  | .universal => ['Z']
  | .custom negative hours minutes =>
      (if negative && hours ≠ 0 then '-' else '+') :: Decimal.padded 2 hours ++
        ':' :: Decimal.padded 2 minutes

def render (moment : Moment) : String :=
  let date := (moment.date.map renderDate).getD []
  let separator := if moment.date.isSome && moment.time.isSome then ['T'] else []
  let time := (moment.time.map renderTime).getD []
  let offset := (moment.offset.map renderOffset).getD []
  String.ofList (date ++ separator ++ time ++ offset)

end Moment

end DeltaRobot.Toml
