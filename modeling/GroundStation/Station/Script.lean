import GroundStation.Station.Control

/-!
# Flying a script

A script is a list of commands that are carried out one after the other once the
vehicle is there. It ends with its last command, or with the first one that fails. A
station without a script stays up, and so does one whose vehicle does not come in
time.
-/

namespace GroundStation

/-- How far a script is. -/
inductive ScriptProgress where
  | awaitingVehicle (limit : Instant)
  | flying (id : Nat)
  | skipped
  | complete
deriving DecidableEq, Repr

/-- A station, the commands left to carry out, and what is to be said about those that
are over. -/
structure ScriptedStation where
  station : Station
  rest : List Command
  progress : ScriptProgress
  remarks : List String

namespace ScriptedStation

/-- A station that is given a script and waits so many milliseconds for its vehicle. -/
def start (station : Station) (script : List Command) (patience : Nat) : ScriptedStation :=
  let progress := if script.isEmpty then .skipped else .awaitingVehicle (station.now + patience)
  ⟨station, script, progress, []⟩

/-- Begins the next command. -/
def next (s : ScriptedStation) : ScriptedStation :=
  match s.rest with
  | [] => { s with progress := .complete, remarks := s.remarks ++ ["Scripted commands complete"] }
  | command :: rest =>
    { s with
      station := s.station.execute command
      rest := rest
      progress := .flying s.station.nextId }

/-- What is said about the end of a command, and whether the next one follows. -/
def verdict : Report → String × Bool
  | .command (.ok outcome) => ("Command finished: " ++ outcome.message, true)
  | .command (.error e) => ("Command failed: " ++ e.message, false)
  | _ => ("Command failed", false)

/-- Goes on with the script as far as the station's journal allows. -/
def goOn (s : ScriptedStation) : ScriptedStation :=
  match s.progress with
  | .awaitingVehicle limit =>
    if s.station.link.isConnected ∧ s.station.console.dispatcher.attached then s.next
    else if limit ≤ s.station.now then
      { s with progress := .skipped, remarks := s.remarks ++ ["No vehicle; commands skipped"] }
    else s
  | .flying id =>
    match s.station.journal.reports.lookup id with
    | none => s
    | some report =>
      let (remark, goesOn) := verdict report
      let s := { s with remarks := s.remarks ++ [remark] }
      if goesOn then s.next else { s with rest := [] }.next
  | .skipped | .complete => s

/-- Goes on with a script as often as commands may end at once. -/
def catchUp (s : ScriptedStation) : ScriptedStation :=
  (List.range (s.rest.length + 2)).foldl (fun s _ => s.goOn) s

end ScriptedStation

end GroundStation
