/-!
# Why a station does not start

Starting fails on the configuration, on the network or for want of memory. A
configuration error made of several contexts reads from the outermost to the innermost.
-/

namespace GroundStation

/-- Why a station could not be started. -/
inductive StartError where
  | config (text : String)
  | network (endpoint : String) (reason : String)
  | memory (capacity : Nat)
deriving DecidableEq, Repr

namespace StartError

/-- A configuration error from its contexts, innermost first. -/
def ofContexts (contexts : List String) : StartError :=
  .config (String.intercalate ": " contexts.reverse)

/-- The text of a start error. -/
def message : StartError → String
  | .config text => "Configuration error: " ++ text
  | .network endpoint reason => "Network error on endpoint '" ++ endpoint ++ "': " ++ reason
  | .memory capacity => "Sample channel capacity too large: " ++ toString capacity

end StartError

end GroundStation
