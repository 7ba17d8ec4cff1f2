import GroundStation.Navigation.Operation

/-!
# The navigator

The navigator runs one operation at a time; further requests wait in the order in
which they were made. A cancellation reaches the operation that is running at that
moment and no other: not one that waits, and not one that is over.

`Navigator.step` makes one move and lists what it does. An operation that ends
while a call of it is unanswered gives the call up before anything else happens.
-/

namespace GroundStation

/-- The operation that is running. -/
structure ActiveOperation where
  id : Nat
  cancelled : Bool
  stage : Stage

/-- The running operation, the requests that wait, and the state shown last. -/
structure Navigator where
  settings : NavigatorSettings
  waiting : List (Nat × Request)
  active : Option ActiveOperation
  state : NavState

/-- What the navigator does in a step. -/
inductive NavigatorAct where
  | begins (id : Nat)
  | shows (state : NavState)
  | calls (id : Nat) (call : LinkCall)
  | givesUp (id : Nat)
  | ends (id : Nat) (ending : Ending)

namespace Navigator

/-- A navigator that has nothing to do. -/
def new (settings : NavigatorSettings) : Navigator := ⟨settings, [], none, .idle⟩

/-- Adds a request behind those that wait. -/
def request (n : Navigator) (id : Nat) (r : Request) : Navigator :=
  { n with waiting := n.waiting ++ [(id, r)] }

/-- Cancels the operation that is running, if there is one. -/
def cancel (n : Navigator) : Navigator :=
  { n with active := n.active.map fun op => { op with cancelled := true } }

/-- Hands over the answer to the call of the running operation. -/
def answer (n : Navigator) (reply : Reply) : Navigator :=
  { n with active := n.active.map fun op =>
      match op.stage with
      | .awaiting task deadline none => { op with stage := .awaiting task deadline (some reply) }
      | _ => op }

/-- What ending the running operation gives up. -/
def dropped (op : ActiveOperation) : List NavigatorAct :=
  if op.stage.isAwaiting then [.givesUp op.id] else []

/-- Carries out a move of the running operation. -/
def carryOut (n : Navigator) (op : ActiveOperation) (m : Move) : Navigator × List NavigatorAct :=
  let shown := m.shows.toList.map NavigatorAct.shows
  let state := m.shows.getD n.state
  match m.act with
  | .enter stage => ({ n with state := state, active := some { op with stage := stage } }, shown)
  | .call call stage =>
    ({ n with state := state, active := some { op with stage := stage } },
      shown ++ [.calls op.id call])
  | .finish .overflow =>
    ({ n with state := state, active := none }, shown ++ dropped op ++ [.ends op.id .overflow])
  | .finish (.outcome outcome) =>
    ({ n with state := .done outcome, active := none },
      shown ++ dropped op ++ [.shows (.done outcome), .ends op.id (.outcome outcome)])

/-- One step: the running operation moves, or the next request begins. -/
def step (n : Navigator) (now : Instant) (telemetry : Aggregator) :
    Option (Navigator × List NavigatorAct) :=
  match n.active with
  | some op => (op.stage.move n.settings now telemetry op.cancelled).map (n.carryOut op)
  | none =>
    match n.waiting with
    | (id, r) :: rest =>
      some ({ n with waiting := rest, active := some ⟨id, false, .begun r⟩ }, [.begins id])
    | [] => none

/-- Drops an operation whose caller gives it up, whether it runs or waits. It shows
nothing. -/
def abandon (n : Navigator) (id : Nat) : Navigator × List NavigatorAct :=
  match n.active with
  | some op =>
    if op.id = id then ({ n with active := none }, dropped op)
    else ({ n with waiting := n.waiting.filter fun w => w.1 ≠ id }, [])
  | none => ({ n with waiting := n.waiting.filter fun w => w.1 ≠ id }, [])

/-- The instant at which the navigator moves even if nothing else happens. -/
def timer (n : Navigator) : Option Instant := n.active.bind fun op => op.stage.timer

/-- A bound on the steps left to the navigator. -/
def stepsLeft (n : Navigator) : Nat :=
  (n.active.map fun op => op.stage.movesLeft).getD 0 +
    n.waiting.foldr (fun w steps => (Stage.begun w.2).movesLeft + 1 + steps) 0

end Navigator

end GroundStation
