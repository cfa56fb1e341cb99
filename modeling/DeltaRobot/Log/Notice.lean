import DeltaRobot.Log.Severity
import DeltaRobot.Log.Style
import DeltaRobot.Machine.State

/-!
Contract: the lines of a log, and the wording of what a machine reports.

A line has a severity, a text, and the part of the program that it comes from. The log says the last
of these of details only, which is how the lines of the motion queue are told from others.

Owns: `LogLine`, and the severity, the source and the text of every `Notice`.
Does not own: when a notice is given.
-/

namespace DeltaRobot

/-- The parts of the program that log. -/
inductive LogSource where
  | program
  | logging
  | machine
  | moves
  | forwardSolver
  | queue
deriving DecidableEq, Repr

/-- The name of a part in the log. -/
def LogSource.path : LogSource → String
  | program => "kin_exec"
  | logging => "util::logger"
  | machine => "kin_lib::delta::state"
  | moves => "kin_lib::delta::segment"
  | forwardSolver => "kin_lib::delta::forward_kinematics"
  | queue => "kin_exec::log_dispatcher"

/-- One line of a log. -/
structure LogLine where
  severity : Severity
  source : LogSource
  text : String
deriving DecidableEq, Repr

/-- The line as it is written, but for its time. -/
def LogLine.render (line : LogLine) : String :=
  if line.severity.isDetail then s!"[{line.severity.tag}] {line.source.path}: {line.text}"
  else s!"[{line.severity.tag}] {line.text}"

def ForwardFailure.text (style : NumberStyle) : ForwardFailure Float → String
  | collinear => "joints are collinear"
  | apart discriminant => s!"linkages cannot meet (discriminant {style.free discriminant})"

namespace Notice

variable {α : Type}

/-- Failures are warnings. What belongs to every move or to every segment is a detail. -/
def severity : Notice α → Severity
  | initialising => .information
  | locating _ => .debug
  | offsetFound _ _ _ => .information
  | selfCheck _ => .information
  | departing _ _ _ _ => .debug
  | offering _ _ _ => .trace
  | cancelled _ _ => .debug
  | _ => .warning

def source : Notice α → LogSource
  | locating _ => .forwardSolver
  | forwardFailed _ => .forwardSolver
  | startInvalid _ _ => .moves
  | targetUnreachable _ _ => .moves
  | departing _ _ _ _ => .moves
  | offering _ _ _ => .moves
  | segmentUnreachable _ _ _ _ => .moves
  | cancelled _ _ => .moves
  | _ => .machine

def text (style : NumberStyle) : Notice Float → String
  | initialising => s!"Kinematic system: {Machine.kind}"
  | locating angles =>
      "Forward kinematics for angles (" ++
        ", ".intercalate (angles.toList.map Decimal.plain) ++ ")"
  | forwardFailed failure => s!"Forward kinematics failed: {failure.text style}"
  | offsetFound offset maxNegativeAngle maxPositiveAngle =>
      s!"    Z offset: {style.fixed 3 offset} mm, " ++
        s!"max neg angle: {style.fixed 4 maxNegativeAngle} rad, " ++
        s!"max pos angle: {style.fixed 4 maxPositiveAngle} rad"
  | offsetUnavailable cause => s!"    Z offset unavailable: {cause.message}"
  | selfCheck angles => s!"    Inverse at Z offset: {style.angles 4 angles}"
  | selfCheckFailed cause =>
      s!"    Inverse kinematics failed at the Z offset: {cause.message}"
  | startInvalid position cause =>
      s!"Kinematics error, start position {style.point position} is invalid: {cause.message}"
  | targetUnreachable target cause =>
      s!"Kinematics error, target {style.point target} is unreachable: {cause.message}"
  | departing start target length count =>
      s!"Move {style.point start} -> {style.point target}: {style.fixed 3 length} mm " ++
        s!"in {count} segments"
  | offering index angles feedRate =>
      s!"Segment {index}: angles {Decimal.literals angles.toList}, " ++
        s!"feed rate {style.fixed 4 feedRate}"
  | segmentUnreachable index count waypoint cause =>
      s!"Kinematics error, segment {index} of {count} at {style.point waypoint} " ++
        s!"is unreachable: {cause.message}"
  | cancelled index count => s!"Move cancelled at segment {index} of {count}"

def line (style : NumberStyle) (notice : Notice Float) : LogLine :=
  { severity := notice.severity, source := notice.source, text := notice.text style }

end Notice

end DeltaRobot
