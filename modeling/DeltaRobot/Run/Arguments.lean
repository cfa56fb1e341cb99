/-!
Contract: the arguments that a run is started with.

A run takes a script and, as an option, a parameter file, in any order and each at most once. What
starts with a dash is an option, a dash alone is not, and behind two dashes alone nothing is. So a
parameter file whose name starts with a dash can only be given in one argument with its option.
Arguments are read in order, and the first one that ends the reading decides.

Owns: `Arguments.ofList` and the ways in which arguments start no run.
Does not own: what is printed when they do not.
-/

namespace DeltaRobot

structure Arguments where
  script : Option String
  parameterFile : String
deriving DecidableEq, Repr

/-- Why arguments start no run. -/
inductive Dismissal where
  | help
  | version
  | misuse
deriving DecidableEq, Repr

/-- Asking for help is no failure. -/
def Dismissal.exitCode : Dismissal → Nat
  | help => 0
  | version => 0
  | misuse => 1

namespace Arguments

/-- The parameter file of a run that is not told another. -/
def defaultParameterFile : String := "kin_exec.toml"

structure Reading where
  script : Option String
  parameterFile : Option String
  /-- How often the option of the parameter file came up. -/
  mentions : Nat
  /-- Whether that option waits for its value. -/
  awaiting : Bool
  /-- Whether two dashes have ended the options. -/
  onlyPaths : Bool

namespace Reading

def start : Reading :=
  { script := none, parameterFile := none, mentions := 0, awaiting := false, onlyPaths := false }

def addScript (reading : Reading) (path : String) : Except Dismissal Reading :=
  if reading.script.isSome then .error .misuse else .ok { reading with script := some path }

/-- The option of the parameter file, with its value in the same argument or in the next one. Signs
of equality in front of the value are dropped. -/
def mention (reading : Reading) (value : Option (List Char)) : Reading :=
  match value with
  | some chars =>
      { reading with
        parameterFile := some (String.ofList (chars.dropWhile (· = '=')))
        mentions := reading.mentions + 1
        awaiting := false }
  | none => { reading with mentions := reading.mentions + 1, awaiting := true }

/-- An option by its name, with a value behind the first sign of equality if there is one. -/
def named (reading : Reading) (chars : List Char) : Except Dismissal Reading :=
  let value :=
    match chars.dropWhile (· ≠ '=') with
    | [] => none
    | _ :: value => some value
  match String.ofList (chars.takeWhile (· ≠ '=')) with
  | "params" => .ok (reading.mention value)
  | "help" => .error .help
  | "version" => .error .version
  | _ => .error .misuse

/-- An option by its letter, with what follows the letter as its value. -/
def lettered (reading : Reading) (letter : Char) (rest : List Char) : Except Dismissal Reading :=
  match letter with
  | 'p' => .ok (reading.mention (if rest.isEmpty then none else some rest))
  | 'h' => .error .help
  | 'V' => .error .version
  | _ => .error .misuse

/-- Reads one argument. However many dashes are in front of a name, it is the same name. -/
def step (reading : Reading) (argument : String) : Except Dismissal Reading :=
  if reading.onlyPaths then reading.addScript argument
  else
    match argument.toList with
    | ['-', '-'] => .ok { reading with onlyPaths := true }
    | '-' :: '-' :: rest => reading.named (rest.dropWhile (· = '-'))
    | '-' :: letter :: rest => reading.lettered letter rest
    | _ =>
        if reading.awaiting then
          .ok { reading with parameterFile := some argument, awaiting := false }
        else reading.addScript argument

/-- The arguments, if the option of the parameter file came up once at most and has a value. -/
def finish (reading : Reading) : Except Dismissal Arguments :=
  if reading.awaiting || 1 < reading.mentions then .error .misuse
  else
    .ok
      { script := reading.script
        parameterFile := reading.parameterFile.getD defaultParameterFile }

end Reading

def ofList (texts : List String) : Except Dismissal Arguments := do
  let reading ← texts.foldlM Reading.step Reading.start
  reading.finish

end Arguments

end DeltaRobot
