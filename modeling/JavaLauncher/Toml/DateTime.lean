import JavaLauncher.Toml.Reader

/-!
# Dates and times

A date is a year of four digits, a month and a day that exists in that month. A time is an hour
and a minute, perhaps with a second and its fraction; a second may be 60. A date may go on with
a time after `T` or a space, and that with an offset from universal time. A time may also stand
alone.
-/
namespace JavaLauncher.Toml

/-- A number written with a fixed number of decimal digits. -/
def digits? (count : Nat) : Reader Nat := fun text =>
  let front := text.take count
  if front.length = count ∧ front.all Char.isDigit then
    some (front.foldl (fun number c => number * 10 + (c.toNat - '0'.toNat)) 0, text.drop count)
  else none

/-- One given character. -/
def mark? (c : Char) : List Char → Option (List Char)
  | d :: rest => if c = d then some rest else none
  | [] => none

/-- A year has a leap day. -/
def isLeapYear (year : Nat) : Bool :=
  year % 4 == 0 && (year % 100 != 0 || year % 400 == 0)

/-- The days of a month. -/
def daysIn (year month : Nat) : Nat :=
  if month = 2 then if isLeapYear year then 29 else 28
  else if month = 4 ∨ month = 6 ∨ month = 9 ∨ month = 11 then 30
  else 31

/-- The text after a date. -/
def date? (text : List Char) : Option (List Char) := do
  let (year, rest) ← digits? 4 text
  let rest ← mark? '-' rest
  let (month, rest) ← digits? 2 rest
  let rest ← mark? '-' rest
  let (day, rest) ← digits? 2 rest
  if 1 ≤ month ∧ month ≤ 12 ∧ 1 ≤ day ∧ day ≤ daysIn year month then some rest else none

/-- The text after an hour and a minute between colons. -/
def hourMinute? (text : List Char) : Option (List Char) := do
  let (hour, rest) ← digits? 2 text
  let rest ← mark? ':' rest
  let (minute, rest) ← digits? 2 rest
  if hour ≤ 23 ∧ minute ≤ 59 then some rest else none

/-- The text after the fraction of a second, if there is one. -/
def secondFraction? : List Char → Option (List Char)
  | '.' :: rest =>
    let digits := rest.takeWhile Char.isDigit
    if digits = [] then none else some (rest.drop digits.length)
  | text => some text

/-- The text after a time. -/
def time? (text : List Char) : Option (List Char) := do
  let rest ← hourMinute? text
  match rest with
  | ':' :: rest =>
    let (second, rest) ← digits? 2 rest
    if second ≤ 60 then secondFraction? rest else none
  | _ => some rest

/-- The text after an offset from universal time, if there is one. -/
def offset? : List Char → Option (List Char)
  | 'Z' :: rest => some rest
  | 'z' :: rest => some rest
  | '+' :: rest => hourMinute? rest
  | '-' :: rest => hourMinute? rest
  | text => some text

/-- A character that may stand between a date and its time. -/
def isTimeMark (c : Char) : Bool := c == 'T' || c == 't' || c == ' '

/-- A text is a date, a time, or a date and a time. -/
def isDateTime (text : List Char) : Bool :=
  match date? text with
  | some [] => true
  | some (c :: rest) => isTimeMark c && ((time? rest).bind offset?) == some []
  | none => time? text == some []

end JavaLauncher.Toml
