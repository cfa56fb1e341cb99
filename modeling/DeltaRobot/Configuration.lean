import DeltaRobot.Toml.Value

/-!
Contract: the configuration of a run.

A configuration names one kind of machine and holds parameter tables, each under the kind of
machine that it is for. Only the table of the named kind is ever looked at; the others may hold
anything that is TOML.

Owns: `Configuration.ofText?` and the choice of the table.
Does not own: what the table has to hold.
-/

namespace DeltaRobot

structure Configuration where
  /-- The kind of machine. -/
  kind : String
  /-- All other entries of the top level, in ascending order of names. -/
  tables : List (String × Toml.Value)

namespace Configuration

/-- The entry that names the kind of machine. -/
def kindKey : String := "kinematics"

/-- Reads a configuration. The kind must be there once and be a text, and every other entry must
have a value; of two entries of one name the later counts. -/
def ofText? (text : String) : Option Configuration := do
  let entries ← Toml.entries? text
  match entries.filter (fun entry => entry.1 = kindKey) with
  | [(_, .text kind)] =>
      let others ← Toml.entryValues? (entries.filter (fun entry => entry.1 ≠ kindKey))
      return { kind, tables := Toml.Value.sorted others }
  | _ => none

/-- The parameter table of the named kind of machine. -/
def table? (configuration : Configuration) : Option Toml.Value :=
  Toml.Value.lookup? configuration.kind configuration.tables

end Configuration

end DeltaRobot
