import TrafficGraph.Toml.Quoted
import TrafficGraph.Toml.Scalar

/-!
# TOML documents

A document is a list of lines, each of which opens a table, gives a value to a
key, or does neither.  The keys behind a header lie in its table.  Lists of
tables with headers of their own are not read.
-/

namespace TrafficGraph
namespace Toml

/-- A character of a key without quotation marks. -/
def isBare (character : Char) : Bool :=
  character.isAlphanum || character == '_' || character == '-'

/-- The text behind the white space in front of it. -/
def skipBlanks (text : List Char) : List Char :=
  text.dropWhile isBlank

/-- The text behind a line break. -/
def afterBreak? : List Char → Option (List Char)
  | '\n' :: rest => some rest
  | '\r' :: '\n' :: rest => some rest
  | _ => none

/-- The text behind a comment at its beginning, if there is one.  A comment ends in
front of a control character, and only a line break may follow it. -/
def skipComment : List Char → List Char
  | '#' :: rest => rest.dropWhile isPrintable
  | text => text

/-- The text behind the end of a line, before which only white space and a
comment may stand. -/
def afterLine? (text : List Char) : Option (List Char) :=
  match skipComment (skipBlanks text) with
  | [] => some []
  | rest => afterBreak? rest

/-- The text behind white space, comments and line breaks. -/
def skipLines : Nat → List Char → List Char
  | 0, text => text
  | fuel + 1, text =>
    match afterBreak? (skipComment (skipBlanks text)) with
    | some rest => skipLines fuel rest
    | none =>
      match skipBlanks text with
      | '#' :: _ => text
      | rest => rest

/-- The text between the items of a list, behind white space, comments and line
breaks. -/
def skipFiller (text : List Char) : List Char :=
  skipLines text.length text

/-- One part of a key, and the text behind it. -/
def readName : List Char → Option (String × List Char)
  | '"' :: rest => readShort '"' rest
  | '\'' :: rest => readShort '\'' rest
  | text =>
    match text.takeWhile isBare with
    | [] => none
    | name => some (String.ofList name, text.dropWhile isBare)

/-- The number of containers that may be open at once, and of the parts that a key
may have, since each part but the last is a table inside another. -/
def nestingLimit : Nat := 79

/-- Names with dots between them, and the text behind them and white space. -/
def readNames : Nat → List Char → Option (List String × List Char)
  | 0, _ => none
  | fuel + 1, text => do
    let (name, rest) ← readName (skipBlanks text)
    match skipBlanks rest with
    | '.' :: rest => do
      let (names, behind) ← readNames fuel rest
      some (name :: names, behind)
    | rest => some ([name], rest)

/-- The parts of a key, and the text behind it and white space. -/
def readPath (text : List Char) : Option (List String × List Char) := do
  let (path, behind) ← readNames text.length text
  if path.length ≤ nestingLimit then some (path, behind) else none

mutual

/-- The value in front of a text, and the text behind it. -/
def readValue : Nat → Nat → List Char → Option (Value × List Char)
  | 0, _, _ => none
  | fuel + 1, allowance, text =>
    match text with
    | '"' :: rest => (readString '"' rest).map fun (value, behind) => (.string value, behind)
    | '\'' :: rest => (readString '\'' rest).map fun (value, behind) => (.string value, behind)
    | '[' :: rest =>
      match allowance with
      | 0 => none
      | inner + 1 => do
        let (items, behind) ← readItems fuel inner (skipFiller rest)
        some (.array items, behind)
    | '{' :: rest =>
      match allowance, skipBlanks rest with
      | 0, _ => none
      | _ + 1, '}' :: behind => some (.table .written [], behind)
      | inner + 1, rest => do
        let (members, behind) ← readMembers fuel inner [] rest
        some (.table .written members, behind)
    | text => readScalar text

/-- The items of an array up to its end, behind a comma at most. -/
def readItems : Nat → Nat → List Char → Option (List Value × List Char)
  | 0, _, _ => none
  | fuel + 1, allowance, text =>
    match text with
    | ']' :: behind => some ([], behind)
    | text => do
      let (item, rest) ← readValue fuel allowance text
      match skipFiller rest with
      | ',' :: rest => do
        let (items, behind) ← readItems fuel allowance (skipFiller rest)
        some (item :: items, behind)
      | ']' :: behind => some ([item], behind)
      | _ => none

/-- The members of an inline table up to its end, added to those before. -/
def readMembers : Nat → Nat → Members → List Char → Option (Members × List Char)
  | 0, _, _, _ => none
  | fuel + 1, allowance, before, text => do
    let (path, rest) ← readPath text
    let (value, rest) ← readValue fuel allowance (skipBlanks (← Time.after? '=' rest))
    let members ← before.assign value path
    match skipBlanks rest with
    | ',' :: rest => readMembers fuel allowance members rest
    | '}' :: behind => some (members, behind)
    | _ => none

end

/-- A line that says something. -/
inductive Line
  /-- Opens a table. -/
  | header (path : List String)
  /-- Gives a value to a key. -/
  | entry (path : List String) (value : Value)

/-- The line in front of a text, if it says something, and the text behind it. -/
def readLine (text : List Char) : Option (Option Line × List Char) :=
  match skipBlanks text with
  | [] => some (none, [])
  | '[' :: rest => do
    let (path, rest) ← readPath rest
    let behind ← afterLine? (← Time.after? ']' rest)
    some (some (.header path), behind)
  | rest =>
    match afterLine? rest with
    | some behind => some (none, behind)
    | none => do
      let (path, rest) ← readPath rest
      let rest := skipBlanks (← Time.after? '=' rest)
      let (value, rest) ← readValue (2 * rest.length + 2) nestingLimit rest
      let behind ← afterLine? rest
      some (some (.entry path value), behind)

/-- The lines of a text that say something. -/
def readLines : Nat → List Char → Option (List Line)
  | 0, _ => some []
  | fuel + 1, text =>
    if text = [] then some []
    else do
      let (line, rest) ← readLine text
      let lines ← readLines fuel rest
      some (line.toList ++ lines)

/-- The members that lines give to a document, behind the header whose table is
open. -/
def addLines : List String → Members → List Line → Option Members
  | _, members, [] => some members
  | _, members, .header path :: rest => do
    let members ← members.openTable path
    addLines path members rest
  | table, members, .entry path value :: rest => do
    let members ← members.assignIn value path table
    addLines table members rest

/-- The text without a byte order mark in front. -/
def dropMark : List Char → List Char
  | '\ufeff' :: rest => rest
  | text => text

/-- The members of the document that a text holds. -/
def document? (text : String) : Option Members := do
  let characters := dropMark text.toList
  let lines ← readLines characters.length characters
  addLines [] [] lines

end Toml
end TrafficGraph
