/-!
# Lines of text

A line ends with a line feed, which may have a carriage return before it; the text
after the last line end is a line unless it is empty. A line of white space only is
blank, by the Unicode property `White_Space`.
-/

namespace GroundStation

/-- Has a character the Unicode property `White_Space`? -/
def isWhiteSpace (c : Char) : Bool :=
  let n := c.toNat
  (0x09 ≤ n && n ≤ 0x0D) || n == 0x20 || n == 0x85 || n == 0xA0 || n == 0x1680 ||
    (0x2000 ≤ n && n ≤ 0x200A) || n == 0x2028 || n == 0x2029 || n == 0x202F || n == 0x205F ||
    n == 0x3000

/-- A line without the carriage return that belongs to its line end. -/
def dropReturn (line : List Char) : List Char :=
  if line.getLast? = some '\r' then line.dropLast else line

/-- The lines of a text, after what was read of the first one. -/
def linesFrom (read : List Char) : List Char → List (List Char)
  | [] => if read.isEmpty then [] else [read]
  | '\n' :: rest => dropReturn read :: linesFrom [] rest
  | c :: rest => linesFrom (read ++ [c]) rest

/-- The lines of a text that are not blank. -/
def printedLines (text : String) : List String :=
  ((linesFrom [] text.toList).filter fun line => !line.all isWhiteSpace).map String.ofList

end GroundStation
