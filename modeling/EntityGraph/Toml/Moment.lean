import EntityGraph.Toml.Text
/-!
# Dates and times of a TOML document

A moment is a date, a time of day, or both, with an offset only if it has both. No setting is a moment, so of one it is
only told that it is well formed: that the date is in the calendar, and the time and the offset are on the clock.
-/

namespace EntityGraph.Toml

/-! ## Parts

Each reader gives the rest of the text. -/

/-- Reads two digits. -/
def readTwoDigits? : List Char → Option (Nat × List Char)
  | a :: b :: cs =>
    if a.isDigit && b.isDigit then some ((a.toNat - '0'.toNat) * 10 + (b.toNat - '0'.toNat), cs) else none
  | _ => none

def isLeapYear (year : Nat) : Bool := year % 4 == 0 && (year % 100 != 0 || year % 400 == 0)

def daysOfMonth (year month : Nat) : Nat :=
  if month = 2 then (if isLeapYear year then 29 else 28)
  else if month = 4 ∨ month = 6 ∨ month = 9 ∨ month = 11 then 30
  else 31

/-- Skips a date of the calendar. -/
def skipDate? (cs : List Char) : Option (List Char) := do
  let (century, cs) ← readTwoDigits? cs
  let (year, cs) ← readTwoDigits? cs
  let '-' :: cs := cs | none
  let (month, cs) ← readTwoDigits? cs
  let '-' :: cs := cs | none
  let (day, cs) ← readTwoDigits? cs
  if 1 ≤ month ∧ month ≤ 12 ∧ 1 ≤ day ∧ day ≤ daysOfMonth (century * 100 + year) month then some cs else none

/-- Skips hours and minutes. -/
def skipHours? (cs : List Char) : Option (List Char) := do
  let (hour, cs) ← readTwoDigits? cs
  let ':' :: cs := cs | none
  let (minute, cs) ← readTwoDigits? cs
  if hour ≤ 23 ∧ minute ≤ 59 then some cs else none

/-- Skips the fraction of a second, if there is one. -/
def skipFraction? : List Char → Option (List Char)
  | '.' :: cs => if (cs.takeWhile Char.isDigit).isEmpty then none else some (cs.dropWhile Char.isDigit)
  | cs => some cs

/-- Skips a time of day. It may leave out the seconds, and a minute may have a leap second. -/
def skipTime? (cs : List Char) : Option (List Char) := do
  let cs ← skipHours? cs
  match cs with
  | ':' :: cs =>
    let (second, cs) ← readTwoDigits? cs
    if second ≤ 60 then skipFraction? cs else none
  | cs => some cs

/-- Skips an offset from universal time, if there is one. -/
def skipOffset? : List Char → Option (List Char)
  | 'Z' :: cs => some cs
  | 'z' :: cs => some cs
  | '+' :: cs => skipHours? cs
  | '-' :: cs => skipHours? cs
  | cs => some cs

/-! ## Moments -/

/-- What stands between a date and a time of day. -/
def isTimeMark (c : Char) : Bool := c == 'T' || c == 't' || c == ' '

def skipMoment? (cs : List Char) : Option (List Char) :=
  match skipDate? cs with
  | none => skipTime? cs
  | some [] => some []
  | some (mark :: cs) => if isTimeMark mark then (skipTime? cs).bind skipOffset? else none

def isMoment (cs : List Char) : Bool := skipMoment? cs == some []

/-- Whether a word is a date that a time of day follows after one space. -/
def dateBeforeTime (word rest : List Char) : Bool :=
  skipDate? word == some [] &&
    (match rest with
      | ' ' :: c :: _ => c.isDigit
      | _ => false)

end EntityGraph.Toml
