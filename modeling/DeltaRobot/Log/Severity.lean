/-!
Contract: how urgent a record of the log is, and which records a log shows.

A verbosity shows every record that is at least as urgent as it says. The reports of a run are
informational, so a log that hides those is refused.

Owns: `Severity`, `Verbosity` and the check of verbosities.
Does not own: the records.
-/

namespace DeltaRobot

/-- The urgency of a record, the most urgent first. -/
inductive Severity where
  | error
  | warning
  | information
  | debug
  | trace
deriving DecidableEq, Repr

namespace Severity

def all : List Severity := [error, warning, information, debug, trace]

/-- The place in the order of urgency; a smaller rank is more urgent. -/
def rank : Severity → Nat
  | error => 1
  | warning => 2
  | information => 3
  | debug => 4
  | trace => 5

/-- The name in capitals. -/
def label : Severity → String
  | error => "ERROR"
  | warning => "WARN"
  | information => "INFO"
  | debug => "DEBUG"
  | trace => "TRACE"

/-- The name with one capital. -/
def title : Severity → String
  | error => "Error"
  | warning => "Warn"
  | information => "Info"
  | debug => "Debug"
  | trace => "Trace"

/-- The three letters in front of a line. -/
def tag : Severity → String
  | error => "ERR"
  | warning => "WRN"
  | information => "INF"
  | debug => "DBG"
  | trace => "TRC"

/-- Whether lines are details, which say what part of the program they come from. -/
def isDetail : Severity → Bool
  | debug => true
  | trace => true
  | _ => false

end Severity

/-- Which records a log shows. -/
inductive Verbosity where
  | silent
  | upTo (least : Severity)
deriving DecidableEq, Repr

namespace Verbosity

def all : List Verbosity := silent :: Severity.all.map upTo

def shows : Verbosity → Severity → Bool
  | silent, _ => false
  | upTo least, severity => severity.rank ≤ least.rank

def label : Verbosity → String
  | silent => "OFF"
  | upTo least => least.label

def title : Verbosity → String
  | silent => "Off"
  | upTo least => least.title

/-- The first of several verbosities that hides what every run reports. -/
def insufficient? (levels : List Verbosity) : Option Verbosity :=
  levels.find? (fun level => !level.shows .information)

/-- What is said of a verbosity that is refused. -/
def refusal (level : Verbosity) : String :=
  s!"Expected a log level of at least `INFO`, found `{level.label}`"

end Verbosity

end DeltaRobot
