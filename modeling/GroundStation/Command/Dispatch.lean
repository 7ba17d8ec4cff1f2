import GroundStation.Command.Basic
import GroundStation.Navigation.Operation

/-!
# Dispatching commands

The dispatcher turns a command into a request to the navigator, a direct call on
the vehicle link, or a cancellation. It refuses a command before a vehicle is
attached, then one whose numbers fail the check, then a mission it does not know;
a refusal happens at once and touches nothing.
-/

namespace GroundStation

/-- Why a command was not carried out. -/
inductive DispatchError where
  | notInitialized
  | unknownMission (selector : String)
  | invalidTarget (reason : String)
  | rejected (failure : NavFailure)
  | link (error : LinkError)
deriving DecidableEq, Repr

/-- The text of a dispatch error. -/
def DispatchError.message : DispatchError → String
  | .notInitialized => "unmanned system not initialized"
  | .unknownMission selector => "unknown mission '" ++ selector ++ "'"
  | .invalidTarget reason => "invalid command target: " ++ reason
  | .rejected failure => "command rejected: " ++ failure.message
  | .link error => "link failure: " ++ error.message

/-- What a command turns into. -/
inductive Errand where
  | navigate (request : Request)
  | call (call : LinkCall)
  | cancel
deriving DecidableEq, Repr

/-- The configured missions, and whether a vehicle is attached. -/
structure Dispatcher where
  missions : List Mission
  attached : Bool

namespace Dispatcher

/-- A dispatcher without a vehicle. -/
def new (missions : List Mission) : Dispatcher := ⟨missions, false⟩

/-- Attaches the vehicle. -/
def attach (d : Dispatcher) : Dispatcher := { d with attached := true }

/-- The mission a command selects: by name if it gives one, else by number from one,
and the first one if it gives neither. -/
def findMission (d : Dispatcher) (number : Option Nat) (name : Option String) :
    Except DispatchError Mission :=
  match name with
  | some name =>
    match d.missions.find? fun m => m.name == name with
    | some m => .ok m
    | none => .error (.unknownMission name)
  | none =>
    match number.getD 1 with
    | 0 => .error (.unknownMission (naturalText 0))
    | i + 1 =>
      match d.missions[i]? with
      | some m => .ok m
      | none => .error (.unknownMission (naturalText (i + 1)))

/-- What a command with valid numbers turns into. -/
def errand (d : Dispatcher) : Command → Except DispatchError Errand
  | .takeoff altitude => .ok (.navigate (.takeoff altitude))
  | .location latitude longitude altitude returnToStart hoverSeconds =>
    .ok (.navigate (.goto (.new latitude longitude altitude hoverSeconds) returnToStart))
  | .mission number name returnToStart =>
    match d.findMission number name with
    | .ok m =>
      .ok (.navigate (.mission { m with returnToStart := returnToStart.getD m.returnToStart }))
    | .error e => .error e
  | .land disarm => .ok (.navigate (.land disarm))
  | .offboard v => .ok (.call (.velocity v))
  | .shell text => .ok (.call (.shell text))
  | .cancel => .ok .cancel

/-- What a command turns into, or why it is refused. -/
def resolve (d : Dispatcher) (command : Command) : Except DispatchError Errand :=
  if ¬ d.attached then .error .notInitialized
  else match command.check with
    | .error fault => .error (.invalidTarget fault.message)
    | .ok _ => d.errand command

end Dispatcher

/-- The result of a command that ran as a navigation operation. -/
def Outcome.settle : Outcome → Except DispatchError Outcome
  | .failed failure => .error (.rejected failure)
  | outcome => .ok outcome

/-- The result of a command that was a direct call. -/
def settleReply : Reply → Except DispatchError Outcome
  | .ok _ => .ok .arrived
  | .error e => .error (.link e)

end GroundStation
