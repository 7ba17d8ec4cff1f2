import GroundStation.Command.Basic
import GroundStation.Number.Decimal

/-!
# The command line

The station is started with options only: where its configuration is, what to fly
once the vehicle is there, and how long to wait for it. The words of the command
line are read from left to right.

A value that stands in a word of its own is looked at when the next option is
met, or at the end; until then a word that is no option at all wins over a value
that cannot be read. A word that begins with a minus sign is never taken for the
value of the option before it; joined to the option by an equals sign it is.
-/

namespace GroundStation

/-- An option with a value. -/
inductive ValuedOption where
  | config
  | takeoff
  | mission
  | connectTimeout
deriving DecidableEq, Repr

/-- An option without a value. -/
inductive Flag where
  | land
  | records
  | help
  | version
deriving DecidableEq, Repr

/-- Why a command line is not carried out. Asking for help or for the version is one
of the reasons. -/
inductive UsageError where
  | missingValue
  | invalidValue
  | unknownArgument
  | repeated
  | unexpectedValue
  | help
  | version
deriving DecidableEq, Repr

/-- What a command line asks for; nothing where an option was not given. -/
structure Arguments where
  config : Option String
  takeoff : Option Float32
  mission : Option String
  connectTimeout : Option Nat
  land : Bool
  records : Bool

/-- A natural number below `2 ^ 64`: digits, with or without a plus sign. -/
def naturalOf? (text : String) : Option Nat :=
  let digits := match text.toList with
    | '+' :: rest => rest
    | rest => rest
  if digits.isEmpty ∨ ¬ digits.all isDigit ∨ Nat.pow 2 64 ≤ digitsValue digits then none
  else some (digitsValue digits)

namespace Arguments

/-- The empty command line. -/
def blank : Arguments := ⟨none, none, none, none, false, false⟩

/-- The path of the configuration. -/
def configPath (a : Arguments) : String := a.config.getD "mavdrive.toml"

/-- The seconds to wait for the vehicle before the script is skipped. -/
def patience (a : Arguments) : Nat := a.connectTimeout.getD 30

/-- The command that selects a mission: by its number if the selector is one, else by
its name. -/
def missionCommand (selector : String) : Command :=
  match naturalOf? selector with
  | some n => .mission (some n) none none
  | none => .mission none (some selector) none

/-- The commands to carry out: takeoff, mission and landing, as far as they were asked
for. -/
def script (a : Arguments) : List Command :=
  a.takeoff.toList.map Command.takeoff ++ a.mission.toList.map missionCommand ++
    if a.land then [.land true] else []

/-- Was the option given? -/
def has (a : Arguments) : ValuedOption → Bool
  | .config => a.config.isSome
  | .takeoff => a.takeoff.isSome
  | .mission => a.mission.isSome
  | .connectTimeout => a.connectTimeout.isSome

/-- Takes the value of an option, which may be given once. -/
def set (a : Arguments) (option : ValuedOption) (value : String) : Except UsageError Arguments :=
  if a.has option then .error .repeated
  else match option with
    | .config => .ok { a with config := some value }
    | .mission => .ok { a with mission := some value }
    | .takeoff =>
      match NumberSyntax.ofChars? value.toList with
      | some x => .ok { a with takeoff := some x.toSingle }
      | none => .error .invalidValue
    | .connectTimeout =>
      match naturalOf? value with
      | some n => .ok { a with connectTimeout := some n }
      | none => .error .invalidValue

end Arguments

/-! ## Reading -/

/-- How far a command line is read: what it asked for up to here, and the last option
with the value it was given, both not yet looked at. -/
structure CommandLineScan where
  read : Arguments
  pending : Option (ValuedOption × Option String)

namespace CommandLineScan

/-- The meaning of the name of an option. -/
def named? (name : String) : Option (ValuedOption ⊕ Flag) :=
  [("config", .inl .config), ("takeoff", .inl .takeoff), ("mission", .inl .mission),
    ("connect-timeout", .inl .connectTimeout), ("land", .inr .land), ("records", .inr .records),
    ("help", .inr .help), ("version", .inr .version)].lookup name

/-- The meaning of the letter of an option. -/
def lettered? (letter : Char) : Option (ValuedOption ⊕ Flag) :=
  [('c', .inl .config), ('h', .inr .help), ('V', .inr .version)].lookup letter

/-- Looks at the last option. -/
def settle (s : CommandLineScan) : Except UsageError Arguments :=
  match s.pending with
  | none => .ok s.read
  | some (_, none) => .error .missingValue
  | some (option, some value) => s.read.set option value

/-- Meets an option whose value is still to come. -/
def await (s : CommandLineScan) (option : ValuedOption) : Except UsageError CommandLineScan :=
  s.settle.map fun a => ⟨a, some (option, none)⟩

/-- Meets an option with its value. -/
def give (s : CommandLineScan) (option : ValuedOption) (value : String) :
    Except UsageError CommandLineScan :=
  match s.settle with
  | .ok a => (a.set option value).map fun a => ⟨a, none⟩
  | .error e => .error e

/-- Meets an option without a value. -/
def raise (s : CommandLineScan) (flag : Flag) : Except UsageError CommandLineScan :=
  match s.settle with
  | .error e => .error e
  | .ok a =>
    match flag with
    | .help => .error .help
    | .version => .error .version
    | .land => if a.land then .error .repeated else .ok ⟨{ a with land := true }, none⟩
    | .records => if a.records then .error .repeated else .ok ⟨{ a with records := true }, none⟩

/-- Meets the name of an option, with what follows an equals sign. -/
def long (s : CommandLineScan) (name : String) (value : Option String) :
    Except UsageError CommandLineScan :=
  match named? name, value with
  | none, _ => .error .unknownArgument
  | some (.inl option), none => s.await option
  | some (.inl option), some value => s.give option value
  | some (.inr flag), none => s.raise flag
  | some (.inr _), some _ => .error .unexpectedValue

/-- Meets a word of letters of options. An option with a value takes the rest of the
word, if there is any, as its value. -/
def letters (s : CommandLineScan) : List Char → Except UsageError CommandLineScan
  | [] => .ok s
  | letter :: rest =>
    match lettered? letter with
    | none => .error .unknownArgument
    | some (.inl option) =>
      match rest with
      | [] => s.await option
      | '=' :: value => s.give option (String.ofList value)
      | value => s.give option (String.ofList value)
    | some (.inr flag) =>
      match s.raise flag with
      | .ok s => s.letters rest
      | .error e => .error e

/-- Meets a word that is no option: the value that the last option waits for. -/
def plain (s : CommandLineScan) (word : String) : Except UsageError CommandLineScan :=
  match s.pending with
  | some (option, none) => .ok { s with pending := some (option, some word) }
  | _ => .error .unknownArgument

/-- Meets a word. -/
def word (s : CommandLineScan) (w : String) : Except UsageError CommandLineScan :=
  match w.toList with
  | '-' :: '-' :: name =>
    match name.dropWhile (· ≠ '=') with
    | [] => s.long (String.ofList name) none
    | _ :: value => s.long (String.ofList (name.takeWhile (· ≠ '='))) (some (String.ofList value))
  | '-' :: letter :: rest => s.letters (letter :: rest)
  | _ => s.plain w

/-- Meets the words of a command line in order. Nothing may follow the word that ends
the options. -/
def words (s : CommandLineScan) : List String → Except UsageError CommandLineScan
  | [] => .ok s
  | w :: rest =>
    if w = "--" then if rest.isEmpty then .ok s else .error .unknownArgument
    else match s.word w with
      | .ok s => s.words rest
      | .error e => .error e

end CommandLineScan

/-- Reads the words of a command line. -/
def Arguments.ofWords (words : List String) : Except UsageError Arguments :=
  match (CommandLineScan.mk .blank none).words words with
  | .ok s => s.settle
  | .error e => .error e

end GroundStation
