import GroundStation.Command.Dispatch
import GroundStation.Navigation.Session

/-!
# The console

The console is where every request enters the station: commands, operations asked
of the navigator directly, calls on the vehicle link, and waits for the vehicle to
be attached. Each request has a number, and the console remembers for each one
that is not over how its result is to be reported.

The console does not carry out link calls. It says which calls are made, and it
is told the answer to a call by the number of the request that made it; a request
has at most one call unanswered. Any vehicle link, the real one or a scripted one,
fits underneath.
-/

namespace GroundStation

/-- What is reported about a request that is over. -/
inductive Report where
  | attached
  | command (result : Except DispatchError Outcome)
  | outcome (outcome : Outcome)
  | reply (reply : Reply)
  | overflow

/-- What a request that is not over waits for. -/
inductive Pending where
  | attachment
  | command
  | operation
  | commandCall
  | call
deriving DecidableEq, Repr

/-- The session, the dispatcher, and the requests that are not over. -/
structure Console where
  session : Session
  dispatcher : Dispatcher
  pending : List (Nat × Pending)

/-- What the console does. -/
inductive ConsoleAct where
  | calls (id : Nat) (call : LinkCall)
  | givesUp (id : Nat)
  | reports (id : Nat) (report : Report)

/-- How the end of an operation is reported. -/
def Pending.report : Pending → Ending → Report
  | _, .overflow => .overflow
  | .command, .outcome outcome => .command outcome.settle
  | _, .outcome outcome => .outcome outcome

namespace Console

/-- A console before anything was asked. -/
def new (settings : NavigatorSettings) (capacity : Nat) (missions : List Mission) : Console :=
  ⟨.new settings capacity, .new missions, []⟩

/-- What a request waits for. -/
def pending? (c : Console) (id : Nat) : Option Pending := c.pending.lookup id

/-- Forgets a request. -/
def forget (c : Console) (id : Nat) : Console :=
  { c with pending := c.pending.filter fun p => p.1 ≠ id }

/-- Remembers what a request waits for. -/
def remember (c : Console) (id : Nat) (p : Pending) : Console :=
  { c with pending := c.pending ++ [(id, p)] }

/-! ## Requests -/

/-- Asks the navigator for an operation. -/
def fly (c : Console) (id : Nat) (request : Request) (p : Pending) : Console :=
  { c with session := (c.session.step (.request id request)).1 }.remember id p

/-- Carries out a command, as far as that goes at once. -/
def execute (c : Console) (id : Nat) (command : Command) : Console × List ConsoleAct :=
  match c.dispatcher.resolve command with
  | .error e => (c, [.reports id (.command (.error e))])
  | .ok (.navigate request) => (c.fly id request .command, [])
  | .ok (.call call) => (c.remember id .commandCall, [.calls id call])
  | .ok .cancel =>
    ({ c with session := (c.session.step .cancel).1 }, [.reports id (.command (.ok .cancelled))])

/-- Makes a call on the vehicle link. -/
def call (c : Console) (id : Nat) (call : LinkCall) : Console × List ConsoleAct :=
  (c.remember id .call, [.calls id call])

/-- Waits for the vehicle to be attached. -/
def awaitAttachment (c : Console) (id : Nat) : Console × List ConsoleAct :=
  if c.dispatcher.attached then (c, [.reports id .attached])
  else (c.remember id .attachment, [])

/-- Attaches the vehicle, which ends every wait for it. -/
def attach (c : Console) : Console × List ConsoleAct :=
  let (waits, rest) := c.pending.partition fun p => p.2 = .attachment
  ({ c with dispatcher := c.dispatcher.attach, pending := rest },
    waits.map fun p => .reports p.1 .attached)

/-! ## What happens to requests -/

/-- What the console does about an act of the navigator. -/
def relay (c : Console) : NavigatorAct → Console × List ConsoleAct
  | .calls id call => (c, [.calls id call])
  | .givesUp id => (c, [.givesUp id])
  | .ends id ending =>
    match c.pending? id with
    | some p => (c.forget id, [.reports id (p.report ending)])
    | none => (c, [])
  | .begins _ | .shows _ => (c, [])

/-- What the console does about several acts of the navigator, in order. -/
def relayAll (c : Console) : List NavigatorAct → Console × List ConsoleAct
  | [] => (c, [])
  | act :: rest =>
    let (next, acts) := c.relay act
    let (last, later) := next.relayAll rest
    (last, acts ++ later)

/-- One event of the session. -/
def step (c : Console) (event : Session.Event) : Console × List ConsoleAct :=
  let (session, acts) := c.session.step event
  { c with session := session }.relayAll acts

/-- The answer to the unanswered call of a request, and what that lets the console
report. An operation goes on with its next move. -/
def answer (c : Console) (id : Nat) (reply : Reply) : Console × Option Report :=
  match c.pending? id with
  | some .commandCall => (c.forget id, some (.command (settleReply reply)))
  | some .call => (c.forget id, some (.reply reply))
  | some _ => ({ c with session := (c.session.step (.answer reply)).1 }, none)
  | none => (c, none)

/-- The caller of a request gives it up; a call of it that is unanswered is given up
with it. -/
def abandon (c : Console) (id : Nat) : Console × List ConsoleAct :=
  match c.pending? id with
  | some .commandCall | some .call => (c.forget id, [.givesUp id])
  | some _ => (c.forget id).step (.abandon id)
  | none => (c, [])

/-- Does everything wait? -/
def isQuiet (c : Console) : Bool := c.session.isQuiet

/-- The instant at which something moves even if nothing else happens. -/
def timer (c : Console) : Option Instant := c.session.navigator.timer

end Console

end GroundStation
