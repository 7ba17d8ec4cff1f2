import GroundStation.Link.Call

/-!
# A scripted vehicle link

For a rehearsal the vehicle link follows a script: it answers each call with the
next entry, at once or not at all. A script that is used up accepts everything.
Calls that were not answered wait, in the order in which they were made, until
they are answered by hand or given up.
-/

namespace GroundStation

/-- How a scripted link meets a call. -/
inductive ScriptEntry where
  | answers (reply : LinkCall → Reply)
  | hangs

/-- The rest of the script, and the calls that wait, oldest first. -/
structure ScriptedLink where
  script : List ScriptEntry
  waiting : List (Nat × LinkCall)

namespace ScriptedLink

/-- A link that has met no call. -/
def new (script : List ScriptEntry) : ScriptedLink := ⟨script, []⟩

/-- Meets a call of a request: the answer, if there is one at once. -/
def meet (l : ScriptedLink) (id : Nat) (call : LinkCall) : ScriptedLink × Option Reply :=
  match l.script with
  | [] => (l, some (.ok ()))
  | .answers reply :: rest => ({ l with script := rest }, some (reply call))
  | .hangs :: rest => ({ l with script := rest, waiting := l.waiting ++ [(id, call)] }, none)

/-- Forgets the call of a request that gives it up. -/
def giveUp (l : ScriptedLink) (id : Nat) : ScriptedLink :=
  { l with waiting := l.waiting.filter fun w => w.1 ≠ id }

/-- Takes the oldest call that waits. -/
def takeOldest (l : ScriptedLink) : Option (Nat × LinkCall × ScriptedLink) :=
  match l.waiting with
  | (id, call) :: rest => some (id, call, { l with waiting := rest })
  | [] => none

end ScriptedLink

end GroundStation
