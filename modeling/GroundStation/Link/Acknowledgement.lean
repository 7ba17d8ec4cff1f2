import GroundStation.Mavlink.Message

/-!
# Waiting for acknowledgements

A vehicle acknowledges a command by its number alone, so of several requests of one
command only the youngest can be told its answer. The table has at most one entry
for a command. An entry has the ticket of the request that made it; it has no
waiter once that request has ended without an answer; and it is stale as long as
an acknowledgement on the way may belong to an earlier request.

An acknowledgement of a command without an entry is not looked at. One for an entry
without a waiter removes the entry; one for a stale entry only takes the mark away;
any other one completes the request and removes its entry.
-/

namespace GroundStation

open Mavlink

/-- What a request that waits is told. -/
inductive Verdict where
  | answered (result : CommandResult)
  | superseded
deriving DecidableEq, Repr

/-- The entry of a command. -/
structure PendingAck where
  command : CommandId
  ticket : Nat
  waiting : Bool
  stale : Bool
deriving DecidableEq, Repr

/-- The entries of all commands, and the ticket of the next request. -/
structure AckTable where
  entries : List PendingAck
  nextTicket : Nat
deriving DecidableEq, Repr

namespace AckTable

/-- A table without entries. -/
def empty : AckTable := ⟨[], 0⟩

/-- The entry of a command. -/
def find? (t : AckTable) (command : CommandId) : Option PendingAck :=
  t.entries.find? fun e => e.command = command

/-- The table without the entry of a command. -/
def remove (t : AckTable) (command : CommandId) : AckTable :=
  { t with entries := t.entries.filter fun e => e.command ≠ command }

/-- Changes the entry of a command. -/
def modify (t : AckTable) (command : CommandId) (change : PendingAck → PendingAck) : AckTable :=
  { t with entries := t.entries.map fun e => if e.command = command then change e else e }

/-- What the start of a request leads to: its ticket, and the ticket of the request that
it supersedes. -/
structure Started where
  table : AckTable
  ticket : Nat
  superseded : Option Nat

/-- Starts a request of a command. -/
def start (t : AckTable) (command : CommandId) : Started :=
  let previous := t.find? command
  let entry := ⟨command, t.nextTicket, true, previous.isSome⟩
  { table := ⟨(t.remove command).entries ++ [entry], t.nextTicket + 1⟩
    ticket := t.nextTicket
    superseded := previous.bind fun e => if e.waiting then some e.ticket else none }

/-- Ends a request, answered or not. Only an entry that is still its own loses its
waiter. -/
def finish (t : AckTable) (command : CommandId) (ticket : Nat) : AckTable :=
  t.modify command fun e => if e.ticket = ticket then { e with waiting := false } else e

/-- Takes in an acknowledgement; the result is the ticket of the request it completes. -/
def resolve (t : AckTable) (ack : CommandAck) : AckTable × Option Nat :=
  if ack.result = CommandResult.inProgress then (t, none)
  else match t.find? ack.command with
    | none => (t, none)
    | some e =>
      if ¬ e.waiting then (t.remove ack.command, none)
      else if e.stale then (t.modify ack.command fun e => { e with stale := false }, none)
      else (t.remove ack.command, some e.ticket)

end AckTable

end GroundStation
