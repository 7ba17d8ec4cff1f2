import GroundStation.Data.Hexadecimal

/-!
# TOML: characters, texts and keys

The pieces of a TOML document below values. Every reader here takes the characters
left and returns what it read with the characters after it. White space within a
line is space and tab; a line ends with a line feed, with or without a carriage
return before it. Control characters other than tab appear nowhere.

A text is written in one of four ways: basic or literal, on one line or on several.
Only basic texts have escapes. A text on several lines drops a line end right
after its opening quotes, keeps every other one as a line feed, and may end in one
or two quotes of its own before the closing three.
-/

namespace GroundStation.Toml

/-- Space and tab. -/
def isBlank (c : Char) : Bool := c == ' ' || c == '\t'

/-- The text without leading white space. -/
def skipBlanks (cs : List Char) : List Char := cs.dropWhile isBlank

/-- A character that a comment or a text may hold. -/
def isPrintable (c : Char) : Bool := c == '\t' || (0x20 ≤ c.toNat && c.toNat ≠ 0x7F)

/-- A character of a key without quotes. -/
def isBareKeyChar (c : Char) : Bool :=
  ('a' ≤ c && c ≤ 'z') || ('A' ≤ c && c ≤ 'Z') || ('0' ≤ c && c ≤ '9') || c == '-' ||
    c == '_'

/-- The text after a line end. -/
def newline? : List Char → Option (List Char)
  | '\n' :: rest => some rest
  | '\r' :: '\n' :: rest => some rest
  | _ => none

/-- The text after a comment, if there is one. -/
def skipComment : List Char → List Char
  | '#' :: rest => rest.dropWhile isPrintable
  | cs => cs

/-- The text after the end of a statement: white space, perhaps a comment, and the end
of the line or of the document. -/
def endOfLine? (cs : List Char) : Option (List Char) :=
  match skipComment (skipBlanks cs) with
  | [] => some []
  | rest => newline? rest

/-! ## Escapes -/

/-- The character with a code point, if there is one. -/
def charOf? (n : Nat) : Option Char := if n.isValidChar then some (Char.ofNat n) else none

/-- The meaning of an escape of one letter. -/
def shortEscape? (c : Char) : Option Char :=
  [('b', '\x08'), ('f', '\x0c'), ('n', '\n'), ('r', '\r'), ('t', '\t'), ('"', '"'),
    ('\\', '\\')].lookup c

/-- Puts a character before the text that was read. -/
def consTo (c : Option Char) (read : Option (List Char × List Char)) :
    Option (List Char × List Char) := do
  let c ← c
  let (text, rest) ← read
  return (c :: text, rest)

/-! ## Texts on one line -/

/-- A basic text after its opening quote. -/
def basic? : List Char → Option (List Char × List Char)
  | [] => none
  | '"' :: rest => some ([], rest)
  | '\\' :: 'u' :: a :: b :: c :: d :: rest =>
    consTo ((hexValue? [a, b, c, d]).bind charOf?) (basic? rest)
  | '\\' :: 'U' :: a :: b :: c :: d :: e :: f :: g :: h :: rest =>
    consTo ((hexValue? [a, b, c, d, e, f, g, h]).bind charOf?) (basic? rest)
  | '\\' :: c :: rest => consTo (shortEscape? c) (basic? rest)
  | c :: rest => if isPrintable c && c ≠ '\\' then consTo (some c) (basic? rest) else none

/-- A literal text after its opening quote. -/
def literal? : List Char → Option (List Char × List Char)
  | [] => none
  | '\'' :: rest => some ([], rest)
  | c :: rest => if isPrintable c then consTo (some c) (literal? rest) else none

/-! ## Texts on several lines -/

/-- What a reader of a text on several lines passes over: nothing, the rest of a line
after a backslash, or the white space and line ends after that line. -/
inductive Skipping where
  | nothing
  | toLineEnd
  | space
deriving DecidableEq

/-- A basic text on several lines after its opening quotes and what follows them. -/
def basicLines? : Skipping → List Char → Option (List Char × List Char)
  | _, [] => none
  | .toLineEnd, '\n' :: rest => basicLines? .space rest
  | .toLineEnd, '\r' :: '\n' :: rest => basicLines? .space rest
  | .toLineEnd, c :: rest => if isBlank c then basicLines? .toLineEnd rest else none
  | .space, '\n' :: rest => basicLines? .space rest
  | .space, ' ' :: rest => basicLines? .space rest
  | .space, '\t' :: rest => basicLines? .space rest
  | .space, '\r' :: '\n' :: rest => basicLines? .space rest
  | _, '"' :: '"' :: '"' :: '"' :: '"' :: rest => some (['"', '"'], rest)
  | _, '"' :: '"' :: '"' :: '"' :: rest => some (['"'], rest)
  | _, '"' :: '"' :: '"' :: rest => some ([], rest)
  | _, '\n' :: rest => consTo (some '\n') (basicLines? .nothing rest)
  | _, '\r' :: '\n' :: rest => consTo (some '\n') (basicLines? .nothing rest)
  | _, '\\' :: '\n' :: rest => basicLines? .space rest
  | _, '\\' :: '\r' :: '\n' :: rest => basicLines? .space rest
  | _, '\\' :: ' ' :: rest => basicLines? .toLineEnd rest
  | _, '\\' :: '\t' :: rest => basicLines? .toLineEnd rest
  | _, '\\' :: 'u' :: a :: b :: c :: d :: rest =>
    consTo ((hexValue? [a, b, c, d]).bind charOf?) (basicLines? .nothing rest)
  | _, '\\' :: 'U' :: a :: b :: c :: d :: e :: f :: g :: h :: rest =>
    consTo ((hexValue? [a, b, c, d, e, f, g, h]).bind charOf?) (basicLines? .nothing rest)
  | _, '\\' :: c :: rest => consTo (shortEscape? c) (basicLines? .nothing rest)
  | _, c :: rest =>
    if isPrintable c && c ≠ '\\' then consTo (some c) (basicLines? .nothing rest) else none

/-- A literal text on several lines after its opening quotes and what follows them. -/
def literalLines? : List Char → Option (List Char × List Char)
  | [] => none
  | '\'' :: '\'' :: '\'' :: '\'' :: '\'' :: rest => some (['\'', '\''], rest)
  | '\'' :: '\'' :: '\'' :: '\'' :: rest => some (['\''], rest)
  | '\'' :: '\'' :: '\'' :: rest => some ([], rest)
  | '\n' :: rest => consTo (some '\n') (literalLines? rest)
  | '\r' :: '\n' :: rest => consTo (some '\n') (literalLines? rest)
  | c :: rest => if isPrintable c then consTo (some c) (literalLines? rest) else none

/-- The text without a line end at its beginning. -/
def skipNewline (cs : List Char) : List Char := (newline? cs).getD cs

/-- A text of any of the four kinds. -/
def text? : List Char → Option (String × List Char)
  | '"' :: '"' :: '"' :: rest =>
    (basicLines? .nothing (skipNewline rest)).map fun (text, rest) => (String.ofList text, rest)
  | '"' :: rest => (basic? rest).map fun (text, rest) => (String.ofList text, rest)
  | '\'' :: '\'' :: '\'' :: rest =>
    (literalLines? (skipNewline rest)).map fun (text, rest) => (String.ofList text, rest)
  | '\'' :: rest => (literal? rest).map fun (text, rest) => (String.ofList text, rest)
  | _ => none

/-! ## Keys -/

/-- A key of several parts: the parts before the last one, and the last one. -/
structure KeyPath where
  parents : List String
  name : String
deriving DecidableEq, Repr

/-- One part of a key. -/
def simpleKey? : List Char → Option (String × List Char)
  | '"' :: rest => (basic? rest).map fun (text, rest) => (String.ofList text, rest)
  | '\'' :: rest => (literal? rest).map fun (text, rest) => (String.ofList text, rest)
  | cs =>
    let name := cs.takeWhile isBareKeyChar
    if name.isEmpty then none else some (String.ofList name, cs.dropWhile isBareKeyChar)

/-- A key has fewer parts than this. -/
def keyLimit : Nat := 80

/-- A key with at most so many parts still to come, after the parts already read. -/
def keyWithin? : Nat → List String → List Char → Option (KeyPath × List Char)
  | 0, _, _ => none
  | parts + 1, parents, cs => do
    let (name, rest) ← simpleKey? (skipBlanks cs)
    match skipBlanks rest with
    | '.' :: rest => keyWithin? parts (parents ++ [name]) rest
    | rest => return (⟨parents, name⟩, rest)

/-- A key: parts divided by points, with white space around each part. -/
def key? (cs : List Char) : Option (KeyPath × List Char) := keyWithin? (keyLimit - 1) [] cs

end GroundStation.Toml
