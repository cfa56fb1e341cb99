import DeltaRobot.Geometry

/-!
Contract: what crosses the boundaries of the kinematics.

A `MoveCommand` orders one straight move. Its planner hands over `PlanData`; the kinematics hands on
`Segment`s, one at a time, to a `Dispatcher`, which accepts or cancels each. A dispatcher is any
state with a response function, so nothing is assumed about the order of its answers.

Owns: the interface types.
Does not own: their text forms, and how a move is cut into segments.
-/

namespace DeltaRobot

inductive MotionMode where
  /-- Positioning at full speed, with the feed rate passed on as it is. -/
  | rapid
  /-- Motion at a controlled feed rate. -/
  | interpolated
deriving DecidableEq, Repr

namespace MotionMode

def all : List MotionMode := [rapid, interpolated]

def name : MotionMode → String
  | rapid => "Rapid"
  | interpolated => "Interpolated"

end MotionMode

/-- What a planner says of a move besides its ends. -/
structure PlanData (α : Type) where
  feedRate : α
  motion : MotionMode
deriving DecidableEq, Repr

/-- A commanded straight move, in the machine frame. -/
structure MoveCommand (α : Type) where
  target : Point α
  /-- Millimetres per minute along the line. -/
  feedRate : α
  rapid : Bool
deriving DecidableEq, Repr

/-- What the command says to the planner. -/
def MoveCommand.plan {α : Type} (command : MoveCommand α) : PlanData α :=
  { feedRate := command.feedRate
    motion := if command.rapid then .rapid else .interpolated }

/-- One step of a move in arm angles. The feed rate is already the one in angle space. -/
structure Segment (α : Type) where
  angles : ArmAngles α
  feedRate : α
  motion : MotionMode
deriving DecidableEq, Repr

inductive Response where
  | accepted
  /-- The segment was discarded, and the rest of the move is not wanted. -/
  | cancelled
deriving DecidableEq, Repr

namespace Response

def all : List Response := [accepted, cancelled]

def name : Response → String
  | accepted => "Accepted"
  | cancelled => "Cancelled"

end Response

/-- A motion queue: how it answers a segment in each of its states, and the state after. -/
abbrev Dispatcher (σ α : Type) := σ → Segment α → Response × σ

namespace Dispatcher

def acceptAll {α : Type} : Dispatcher Unit α := fun state _ => (.accepted, state)

/-- Accepts as many segments as its state says, or all of them when it says nothing. -/
def acceptAtMost {α : Type} : Dispatcher (Option Nat) α
  | none, _ => (.accepted, none)
  | some 0, _ => (.cancelled, some 0)
  | some (left + 1), _ => (.accepted, some left)

end Dispatcher

end DeltaRobot
