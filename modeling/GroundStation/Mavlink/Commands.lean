/-!
# The commands of the dialect

The numbers that the dialect defines as commands. A message that names another
command cannot be read.
-/

namespace GroundStation.Mavlink

/-- Is this the number of a command? -/
def isCommand (n : Nat) : Bool :=
  [16, 17, 18, 19, 20, 21, 22, 23, 24, 25, 30, 31, 32, 33, 34, 80, 81, 82, 84, 85, 92, 93, 94,
    95, 112, 113, 114, 115, 159, 176, 177, 178, 179, 180, 181, 182, 183, 184, 185, 186, 187,
    189, 190, 191, 192, 193, 194, 195, 196, 197, 198, 200, 201, 202, 203, 204, 205, 206,
    207, 208, 209, 210, 211, 212, 213, 214, 220, 221, 222, 223, 224, 240, 241, 242, 243, 245,
    246, 252, 260, 300, 310, 311, 400, 401, 405, 410, 420, 500, 510, 511, 512, 519, 520,
    521, 522, 525, 526, 527, 528, 529, 530, 531, 532, 533, 600, 601, 1000, 1001, 2000,
    2001, 2002, 2003, 2004, 2005, 2010, 2500, 2501, 2502, 2503, 2504, 2505, 2510, 2511, 2520,
    2600, 2800, 3000, 3001, 4000, 4001, 4501, 5000, 5001, 5002, 5003, 5004, 5100, 5200, 10001,
    30001, 30002, 31000, 31001, 31002, 31003, 31004, 31005, 31006, 31007, 31008, 31009, 31010,
    31011, 31012, 31013, 31014, 32000, 42006, 42600].contains n

/-- A command of the dialect. -/
structure CommandId where
  number : UInt16
  defined : isCommand number.toNat = true := by decide
deriving DecidableEq, Repr

namespace CommandId

/-- The command with a number, if the dialect defines it. -/
def ofNat? (n : Nat) : Option CommandId :=
  if h : isCommand (UInt16.ofNat n).toNat = true then some ⟨UInt16.ofNat n, h⟩ else none

/-- Land at the present place. -/
def land : CommandId := ⟨21, by decide⟩

/-- Take off. -/
def takeoff : CommandId := ⟨22, by decide⟩

/-- Switch the mode of flight. -/
def setMode : CommandId := ⟨176, by decide⟩

/-- Fly to a place and stay there. -/
def reposition : CommandId := ⟨192, by decide⟩

/-- Arm or disarm the motors. -/
def armDisarm : CommandId := ⟨400, by decide⟩

/-- Send a message at an interval. -/
def setMessageInterval : CommandId := ⟨511, by decide⟩

end CommandId

end GroundStation.Mavlink
