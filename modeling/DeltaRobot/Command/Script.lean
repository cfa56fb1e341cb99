import DeltaRobot.Command.Codec

/-!
Contract: move commands and move scripts as JSON texts.

A script is an array of commands. All of it is decoded before any command is looked at, and the
first command is refused whose feed rate is not a finite positive number or whose target is not a
finite point.

Owns: `MoveCommand.ofText`, `MoveCommand.scriptOfText` and `CommandError`.
Does not own: running a script.
-/

namespace DeltaRobot

/-- Why a text is no usable command or script. -/
inductive CommandError where
  | invalidText (cause : Json.DecodeError)
  | invalidFeedRate (feedRate : Float)
  | invalidTarget (target : Point Float)

/-- The text behind the colon of an invalid text is that of the reader, and is not given here. -/
def CommandError.message : CommandError → String
  | invalidText _ => "Command contains invalid JSON:"
  | invalidFeedRate feedRate =>
      s!"Command has an invalid feed rate ({Decimal.plain feedRate}), " ++
        "expected a finite positive value"
  | invalidTarget target =>
      "Command has a non-finite target position (Point \x7b coords: Matrix \x7b data: " ++
        Decimal.literals target.toList ++ " \x7d \x7d)"

namespace MoveCommand

/-- A machine can follow any finite positive feed rate and no other. -/
def usable (command : MoveCommand Float) : Bool :=
  command.feedRate.isFinite && !decide (command.feedRate ≤ 0)

/-- Whether the target is a finite point. -/
def placed (command : MoveCommand Float) : Bool := command.target.toList.all Float.isFinite

/-- The feed rate is looked at first. -/
def validate (command : MoveCommand Float) : Except CommandError Unit :=
  if !command.usable then .error (.invalidFeedRate command.feedRate)
  else if !command.placed then .error (.invalidTarget command.target)
  else .ok ()

/-- Refuses the first command that does not validate. -/
def validateAll : List (MoveCommand Float) → Except CommandError Unit
  | [] => .ok ()
  | command :: commands =>
      match command.validate with
      | .error cause => .error cause
      | .ok () => validateAll commands

def ofText (text : String) : Except CommandError (MoveCommand Float) :=
  match Json.decodeText decode text with
  | .error cause => .error (.invalidText cause)
  | .ok command =>
      match command.validate with
      | .error cause => .error cause
      | .ok () => .ok command

def scriptOfText (text : String) : Except CommandError (List (MoveCommand Float)) :=
  match Json.decodeText (Json.Decoder.list decode) text with
  | .error cause => .error (.invalidText cause)
  | .ok commands =>
      match validateAll commands with
      | .error cause => .error cause
      | .ok () => .ok commands

end MoveCommand

end DeltaRobot
