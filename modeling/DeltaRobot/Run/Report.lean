import DeltaRobot.Log.Notice
import DeltaRobot.Run.Execution

/-!
Contract: the lines of a run's log, and what is said of a run that fails.

A record gives one line or several. The lines of segments are a detail that only a verbose log
keeps.

Owns: the severity and the wording of every record, and of every failure.
Does not own: the times and colours in front of lines.
-/

namespace DeltaRobot

open Text (quoted)

namespace ScriptEvent

/-- The text of a numbered segment. -/
def queuedText (style : NumberStyle) (number : Nat) (segment : Segment Float) : String :=
  s!"Segment {number}: {style.angles 5 segment.angles} rad " ++
    s!"at {style.fixed 4 segment.feedRate} ({segment.motion.name})"

def line (style : NumberStyle) : ScriptEvent Float → LogLine
  | notice report => report.line style
  | queued number segment => ⟨.debug, .queue, queuedText style number segment⟩
  | completed index target segments =>
      ⟨.information, .program,
        s!"Move {index} to {style.point target} complete in {segments} segments"⟩
  | rejected index target segments cause =>
      ⟨.warning, .program,
        s!"Move {index} to {style.point target} rejected after {segments} segments: " ++
          cause.message⟩
  | armsAt position => ⟨.information, .program, s!"    Arms report position {style.point position}"⟩
  | armsUnknown cause => ⟨.warning, .program, s!"    Arm position unavailable: {cause.message}"⟩

end ScriptEvent

/-- Texts in a list, each in quotes. -/
def quotedList (texts : List String) : String :=
  "[" ++ ", ".intercalate (texts.map quoted) ++ "]"

namespace RunEvent

def lines (style : NumberStyle) : RunEvent → List LogLine
  | logging screen file =>
      [⟨.information, .logging, "Logging initialised"⟩,
        ⟨.information, .logging, s!"    Log level: {screen.title} (file: {file.title})"⟩]
  | started => [⟨.information, .program, "Kinematics Executable"⟩]
  | parametersLoaded => [⟨.information, .program, "Parameters loaded"⟩]
  | notice report => [report.line style]
  | machineReady => [⟨.information, .program, "Kinematics initialised"⟩]
  | noScript => [⟨.information, .program, "No move script given, exiting"⟩]
  | scriptStarted moves path =>
      [⟨.information, .program, s!"Running {moves} moves from {quoted path}"⟩]
  | script event => [event.line style]
  | scriptCompleted => [⟨.information, .program, "Move script complete"⟩]

end RunEvent

namespace Failure

/-- What is said of a failure, the outermost reason first. -/
def reasons : Failure → List String
  | noSession => ["Failed to create the session", rootNotSet]
  | notLoaded file cause => [s!"Failed to load {file}", cause.message]
  | noTable kind file =>
      [s!"No [{kind}] table in {file}, available backends are {quotedList Machine.kinds}"]
  | parametersNotArchived cause => ["Failed to archive the parameters", cause.message]
  | notBuilt cause => ["Failed to build the kinematics backend", cause.message]
  | scriptNotRead path cause => [s!"Failed to read move script {quoted path}", cause.message]
  | scriptInvalid cause => ["Invalid move script", cause.message]
  | scriptNotArchived cause => ["Failed to archive the move script", cause.message]

end Failure

namespace Execution

/-- The lines of a run that a log of a given verbosity shows. -/
def lines (execution : Execution) (style : NumberStyle) (verbosity : Verbosity) : List LogLine :=
  (execution.events.flatMap (fun event => event.lines style)).filter
    (fun line => verbosity.shows line.severity)

/-- The segments that the queue accepted, with their numbers. -/
def queued (execution : Execution) : List (Nat × Segment Float) :=
  execution.events.filterMap (fun event =>
    match event with
    | .script (.queued number segment) => some (number, segment)
    | _ => none)

/-- The segments that were offered to the queue. -/
def offered (execution : Execution) : List (Segment Float) :=
  execution.steps.flatMap (fun step => step.report.offered.map Prod.fst)

end Execution

end DeltaRobot
