/-!
# Times in RFC 3339 form

A date, one of `T`, `t` and a space, a time of day with any number of decimals
of a second, and an offset from universal time.  The sixtieth second of a minute
is the first of the next.  Decimals beyond the third are cut off.  A time is
written with three decimals and in universal time.
-/

namespace TrafficGraph
namespace Time

/-- A year with a twenty-ninth of February. -/
def isLeap (year : Nat) : Bool :=
  year % 4 == 0 && (year % 100 != 0 || year % 400 == 0)

/-- The number of days of each month of a year. -/
def monthLengths (year : Nat) : List Nat :=
  [31, if isLeap year then 29 else 28, 31, 30, 31, 30, 31, 31, 30, 31, 30, 31]

/-- The number of days between the first days of the year zero and of a year. -/
def daysBeforeYear (year : Nat) : Nat :=
  365 * year + (year + 3) / 4 - (year + 99) / 100 + (year + 399) / 400

/-- The number of days from the first of January 1970 to a day of the calendar. -/
def dayNumber? (year month day : Nat) : Option Int :=
  let lengths := monthLengths year
  match lengths[month - 1]? with
  | none => none
  | some length =>
    if 1 ≤ month ∧ 1 ≤ day ∧ day ≤ length then
      let earlier := (lengths.take (month - 1)).foldl (· + ·) 0
      some ((daysBeforeYear year + earlier + (day - 1) : Nat) - (daysBeforeYear 1970 : Nat))
    else none

/-- A number of exactly so many digits, and the text behind it. -/
def digits? (count : Nat) (text : List Char) : Option (Nat × List Char) :=
  let digits := text.take count
  if digits.length = count ∧ digits.all Char.isDigit then
    some (Nat.ofDigitChars 10 digits 0, text.drop count)
  else none

/-- The text behind a character, if it begins with it. -/
def after? (character : Char) : List Char → Option (List Char)
  | head :: rest => if head = character then some rest else none
  | [] => none

/-- The text behind the mark between a date and a time of day. -/
def afterDateMark? : List Char → Option (List Char)
  | 'T' :: rest => some rest
  | 't' :: rest => some rest
  | ' ' :: rest => some rest
  | _ => none

/-- The whole milliseconds of the decimals of a second, and the text behind them. -/
def fraction? : List Char → Option (Nat × List Char)
  | '.' :: rest =>
    match rest.takeWhile Char.isDigit with
    | [] => none
    | digits =>
      some (Nat.ofDigitChars 10 ((digits ++ ['0', '0']).take 3) 0, rest.dropWhile Char.isDigit)
  | rest => some (0, rest)

/-- The minutes by which a local time is ahead of universal time. -/
def offset? : List Char → Option Int
  | ['Z'] => some 0
  | ['z'] => some 0
  | sign :: rest => do
    let (hours, rest) ← digits? 2 rest
    let (minutes, rest) ← digits? 2 (← after? ':' rest)
    if rest = [] ∧ hours ≤ 23 ∧ minutes ≤ 59 then
      let size : Int := hours * 60 + minutes
      if sign = '+' then some size
      else if sign = '-' ∨ sign = '\u2212' then some (-size)
      else none
    else none
  | [] => none

/-- The milliseconds from the start of 1970 to the instant that a text denotes. -/
def millisOfRfc3339? (text : List Char) : Option Int := do
  let (year, rest) ← digits? 4 text
  let (month, rest) ← digits? 2 (← after? '-' rest)
  let (day, rest) ← digits? 2 (← after? '-' rest)
  let (hour, rest) ← digits? 2 (← afterDateMark? rest)
  let (minute, rest) ← digits? 2 (← after? ':' rest)
  let (second, rest) ← digits? 2 (← after? ':' rest)
  let (millis, rest) ← fraction? rest
  let offset ← offset? rest
  let days ← dayNumber? year month day
  if hour ≤ 23 ∧ minute ≤ 59 ∧ second ≤ 60 then
    some ((((days * 24 + hour) * 60 + minute - offset) * 60 + second) * 1000 + millis)
  else none

/-- The month and the day in it that lie so many days after the first of a month. -/
def monthDay (month : Nat) : List Nat → Nat → Nat × Nat
  | [], days => (month, days + 1)
  | length :: later, days =>
    if days < length then (month, days + 1) else monthDay (month + 1) later (days - length)

/-- The year of a day that is counted from the first day of the year zero. -/
def yearOfDay (day : Nat) : Nat :=
  let mean := day * 400 / 146097
  if daysBeforeYear (mean + 1) ≤ day then mean + 1
  else if daysBeforeYear mean ≤ day then mean
  else mean - 1

/-- A number with zeros in front up to a width. -/
def padded (width number : Nat) : List Char :=
  let digits := Nat.toDigits 10 number
  List.replicate (width - digits.length) '0' ++ digits

/-- The text of the instant that lies so many milliseconds after the start of 1970. -/
def rfc3339OfMillis (millis : Nat) : String :=
  let seconds := millis / 1000
  let day := seconds / 86400 + daysBeforeYear 1970
  let year := yearOfDay day
  let (month, dayOfMonth) := monthDay 1 (monthLengths year) (day - daysBeforeYear year)
  String.ofList (
    padded 4 year ++ '-' :: padded 2 month ++ '-' :: padded 2 dayOfMonth ++
      'T' :: padded 2 (seconds / 3600 % 24) ++ ':' :: padded 2 (seconds / 60 % 60) ++
      ':' :: padded 2 (seconds % 60) ++ '.' :: padded 3 (millis % 1000) ++
      ['+', '0', '0', ':', '0', '0'])

end Time
end TrafficGraph
