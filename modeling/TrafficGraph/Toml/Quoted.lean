import TrafficGraph.Text.Digit

/-!
# Strings in TOML

A string stands between quotation marks, in which a backslash begins an escape,
or between apostrophes, in which nothing does.  Three of either let the string
run over several lines; the line break behind the opening ones is no part of it,
and a backslash at the end of a line drops the white space up to the next other
character.  Control characters other than the tab cannot stand in a string.
-/

namespace TrafficGraph
namespace Toml

/-- The white space inside a line. -/
def isBlank (character : Char) : Bool :=
  character == ' ' || character == '\t'

/-- A character that is no control character other than the tab. -/
def isPrintable (character : Char) : Bool :=
  character == '\t' || (' ' ≤ character && character != '\x7f')

/-- Line breaks of a carriage return and a line feed as line feeds. -/
def plainBreaks : List Char → List Char
  | '\r' :: '\n' :: rest => '\n' :: plainBreaks rest
  | character :: rest => character :: plainBreaks rest
  | [] => []

/-- The characters before the closing mark of a string on one line, and the text
behind it; a backslash that escapes keeps the next character inside. -/
def cutShort (mark : Char) (escapes : Bool) : List Char → Option (List Char × List Char)
  | [] => none
  | character :: rest =>
    if character = mark then some ([], rest)
    else if escapes && character == '\\' then
      match rest with
      | [] => none
      | escaped :: tail =>
        (cutShort mark escapes tail).map fun (inside, behind) =>
          (character :: escaped :: inside, behind)
    else (cutShort mark escapes rest).map fun (inside, behind) => (character :: inside, behind)

/-- The characters before the three closing marks of a string on several lines,
and the text behind them; up to two more marks in front of these are inside. -/
def cutLong (mark : Char) (escapes : Bool) : List Char → Option (List Char × List Char)
  | [] => none
  | character :: rest =>
    let marks := ((character :: rest).takeWhile (· == mark)).length
    if 3 ≤ marks then
      some (List.replicate (min marks 5 - 3) mark, (character :: rest).drop (min marks 5))
    else if escapes && character == '\\' then
      match rest with
      | [] => none
      | escaped :: tail =>
        (cutLong mark escapes tail).map fun (inside, behind) =>
          (character :: escaped :: inside, behind)
    else (cutLong mark escapes rest).map fun (inside, behind) => (character :: inside, behind)

/-- The character meant by a letter after a backslash. -/
def escapedCharacter? : Char → Option Char
  | 'b' => some '\x08'
  | 't' => some '\t'
  | 'n' => some '\n'
  | 'f' => some '\x0c'
  | 'r' => some '\r'
  | '"' => some '"'
  | '\\' => some '\\'
  | _ => none

/-- The character whose number is written by hexadecimal digits. -/
def numberedCharacter? (digits : List Char) : Option Char := do
  let code ← Text.hexadecimal? digits
  if code.isValidChar then some (Char.ofNat code) else none

/-- What white space means where an escape has been read. -/
inductive Margin
  /-- It is part of the string. -/
  | kept
  /-- It stands between a backslash and the end of its line. -/
  | ending
  /-- It stands in front of the first character of a line that goes on. -/
  | leading
  deriving DecidableEq

/-- The string meant by the characters between two marks with escapes; line
breaks can stand only in a string on several lines. -/
def unescape? (long : Bool) : Margin → List Char → Option (List Char)
  | .ending, [] => none
  | _, [] => some []
  | margin, character :: rest =>
    if margin = .ending then
      if character = '\n' then unescape? long .leading rest
      else if isBlank character then unescape? long .ending rest
      else none
    else if margin = .leading && (character == '\n' || isBlank character) then
      unescape? long .leading rest
    else if character = '\\' then
      match rest with
      | 'u' :: first :: second :: third :: fourth :: tail => do
        let escaped ← numberedCharacter? [first, second, third, fourth]
        (unescape? long .kept tail).map (escaped :: ·)
      | 'U' :: first :: second :: third :: fourth :: fifth :: sixth :: seventh :: eighth ::
          tail => do
        let escaped ← numberedCharacter?
          [first, second, third, fourth, fifth, sixth, seventh, eighth]
        (unescape? long .kept tail).map (escaped :: ·)
      | letter :: tail =>
        match escapedCharacter? letter with
        | some escaped => (unescape? long .kept tail).map (escaped :: ·)
        | none =>
          if long && letter == '\n' then unescape? long .leading tail
          else if long && isBlank letter then unescape? long .ending tail
          else none
      | [] => none
    else if isPrintable character || (long && character == '\n') then
      (unescape? long .kept rest).map (character :: ·)
    else none

/-- The string meant by the characters between two marks without escapes. -/
def literal? (long : Bool) (characters : List Char) : Option (List Char) :=
  if characters.all fun character => isPrintable character || (long && character == '\n') then
    some characters
  else none

/-- The string meant by the characters between two marks. -/
def content? (mark : Char) (long : Bool) (characters : List Char) : Option (List Char) :=
  if mark = '"' then unescape? long .kept (plainBreaks characters)
  else literal? long (plainBreaks characters)

/-- The string on one line behind its opening mark, and the text behind it. -/
def readShort (mark : Char) (text : List Char) : Option (String × List Char) := do
  let (inside, behind) ← cutShort mark (mark == '"') text
  let characters ← content? mark false inside
  some (String.ofList characters, behind)

/-- The text behind a line break at its beginning, if there is one. -/
def dropBreak : List Char → List Char
  | '\n' :: rest => rest
  | '\r' :: '\n' :: rest => rest
  | text => text

/-- The string on several lines behind its opening marks, and the text behind it. -/
def readLong (mark : Char) (text : List Char) : Option (String × List Char) := do
  let (inside, behind) ← cutLong mark (mark == '"') (dropBreak text)
  let characters ← content? mark true inside
  some (String.ofList characters, behind)

/-- The string behind the first of its opening marks, and the text behind it. -/
def readString (mark : Char) (text : List Char) : Option (String × List Char) :=
  match text with
  | second :: third :: rest =>
    if second = mark ∧ third = mark then readLong mark rest else readShort mark text
  | _ => readShort mark text

end Toml
end TrafficGraph
