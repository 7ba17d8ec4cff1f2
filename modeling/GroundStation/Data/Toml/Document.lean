import GroundStation.Data.Toml.Scalar
import GroundStation.Data.Toml.Table

/-!
# TOML documents

A document is read in two steps: its lines become statements, and the statements
are put together into one table. Values nest, so the readers of values share a
count that starts at twice the length of the text, which no value exceeds; the
nesting itself has a limit of its own.
-/

namespace GroundStation.Toml

/-- Lists and tables in braces nest less deep than this. -/
def nestingLimit : Nat := 80

/-- The text without white space, comments and line ends in front, passing over at most
so many lines. -/
def skipLines : Nat → List Char → List Char
  | 0, cs => cs
  | lines + 1, cs =>
    let rest := skipComment (skipBlanks cs)
    match newline? rest with
    | some rest => skipLines lines rest
    | none => skipBlanks cs

mutual

/-- A value that may nest so deep, and the text after it. -/
def value? : Nat → Nat → List Char → Option (Value × List Char)
  | 0, _, _ => none
  | fuel + 1, depth, cs =>
    match cs with
    | '"' :: _ | '\'' :: _ => (text? cs).map fun (s, rest) => (.text s, rest)
    | '[' :: rest =>
      if depth ≤ 1 then none
      else (items? fuel (depth - 1) rest).map fun (items, rest) => (.list items, rest)
    | '\x7b' :: rest =>
      if depth ≤ 1 then none
      else match skipBlanks rest with
        | '\x7d' :: rest => some (.table [], rest)
        | rest => do
          let (body, rest) ← pairs? fuel (depth - 1) rest
          let entries ← Entries.addEntries [] body
          return (.table (entriesValue entries), rest)
    | cs => scalar? cs

/-- The items of a list up to its closing bracket. -/
def items? : Nat → Nat → List Char → Option (List Value × List Char)
  | 0, _, _ => none
  | fuel + 1, depth, cs =>
    match skipLines fuel cs with
    | ']' :: rest => some ([], rest)
    | cs => do
      let (item, rest) ← value? fuel depth cs
      match skipLines fuel rest with
      | ',' :: rest =>
        let (items, rest) ← items? fuel depth rest
        return (item :: items, rest)
      | ']' :: rest => return ([item], rest)
      | _ => none

/-- The entries of a table in braces up to its closing brace, on one line. -/
def pairs? : Nat → Nat → List Char → Option (List (KeyPath × Value) × List Char)
  | 0, _, _ => none
  | fuel + 1, depth, cs => do
    let (key, rest) ← key? cs
    match rest with
    | '=' :: rest =>
      let (value, rest) ← value? fuel depth (skipBlanks rest)
      match skipBlanks rest with
      | ',' :: rest =>
        let (pairs, rest) ← pairs? fuel depth rest
        return ((key, value) :: pairs, rest)
      | '\x7d' :: rest => return ([(key, value)], rest)
      | _ => none
    | _ => none

end

/-- One line of a document. -/
inductive Statement where
  | blank
  | table (header : KeyPath)
  | series (header : KeyPath)
  | entry (key : KeyPath) (value : Value)

/-- The statement at the beginning of a text, and the lines after it. -/
def statement? (cs : List Char) : Option (Statement × List Char) :=
  match skipBlanks cs with
  | [] => some (.blank, [])
  | '#' :: rest => (endOfLine? ('#' :: rest)).map fun rest => (.blank, rest)
  | '\n' :: rest => some (.blank, rest)
  | '\r' :: rest => (newline? ('\r' :: rest)).map fun rest => (.blank, rest)
  | '[' :: '[' :: rest => do
    let (header, rest) ← key? rest
    match rest with
    | ']' :: ']' :: rest => return (.series header, ← endOfLine? rest)
    | _ => none
  | '[' :: rest => do
    let (header, rest) ← key? rest
    match rest with
    | ']' :: rest => return (.table header, ← endOfLine? rest)
    | _ => none
  | cs => do
    let (key, rest) ← key? cs
    match rest with
    | '=' :: rest =>
      let (value, rest) ← value? (2 * rest.length + 2) nestingLimit (skipBlanks rest)
      return (.entry key value, ← endOfLine? rest)
    | _ => none

/-- The statements of a text of at most so many lines. -/
def statements? : Nat → List Char → Option (List Statement)
  | _, [] => some []
  | 0, _ => none
  | lines + 1, cs => do
    let (statement, rest) ← statement? cs
    return statement :: (← statements? lines rest)

/-! ## Assembly -/

/-- Where the entries after a header go. -/
inductive Target where
  | root
  | table (header : KeyPath)
  | series (header : KeyPath)

/-- A document that is being put together: what is finished, and the table whose
entries are being collected. -/
structure Assembly where
  finished : Entries
  target : Target
  body : List (KeyPath × Value)

namespace Assembly

/-- Finishes the table whose entries were collected. -/
def close (a : Assembly) : Option Entries :=
  match a.target with
  | .root => a.finished.addEntries a.body
  | .table header => a.finished.addTable header a.body
  | .series header => a.finished.addToSeries header a.body

/-- Takes in one statement. -/
def take (a : Assembly) : Statement → Option Assembly
  | .blank => some a
  | .entry key value => some { a with body := a.body ++ [(key, value)] }
  | .table header => a.close.map fun es => ⟨es, .table header, []⟩
  | .series header => a.close.map fun es => ⟨es, .series header, []⟩

/-- Takes in statements in order. -/
def takeAll (a : Assembly) : List Statement → Option Assembly
  | [] => some a
  | s :: rest =>
    match a.take s with
    | some a => a.takeAll rest
    | none => none

end Assembly

/-- The text without a byte order mark in front. -/
def skipByteOrderMark : List Char → List Char
  | '\ufeff' :: rest => rest
  | cs => cs

/-- The table a TOML document describes. -/
def read? (text : String) : Option Value := do
  let cs := skipByteOrderMark text.toList
  let statements ← statements? (cs.length + 1) cs
  let assembly ← Assembly.takeAll ⟨[], .root, []⟩ statements
  return .table (entriesValue (← assembly.close))

end GroundStation.Toml
