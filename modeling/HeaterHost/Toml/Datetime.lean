import HeaterHost.Text.Numeral

/-!
Recognising dates and times: a date, a time of day (the seconds may be left out), or a date and
a time with an optional offset.
-/

namespace HeaterHost.Toml.Datetime

/-- A number of exactly `width` digits, and what follows. -/
def field? (width : Nat) (cs : List Char) : Option (Nat × List Char) :=
  let digits := cs.takeWhile Char.isDigit
  if digits.length == width then
    (Text.natural? digits).map fun n => (n, cs.dropWhile Char.isDigit)
  else none

def after? (mark : Char) : List Char → Option (List Char)
  | c :: cs => if c == mark then some cs else none
  | [] => none

def daysIn (year month : Nat) : Nat :=
  if month == 2 then
    if year % 4 == 0 && (year % 100 != 0 || year % 400 == 0) then 29 else 28
  else if month == 4 || month == 6 || month == 9 || month == 11 then 30
  else 31

def date? (cs : List Char) : Option (List Char) := do
  let (year, cs) ← field? 4 cs
  let (month, cs) ← field? 2 (← after? '-' cs)
  let (day, cs) ← field? 2 (← after? '-' cs)
  guard (1 ≤ month && month ≤ 12 && 1 ≤ day && day ≤ daysIn year month)
  return cs

def fraction? (cs : List Char) : Option (List Char) :=
  match cs with
  | '.' :: rest =>
      if (rest.takeWhile Char.isDigit).isEmpty then none else some (rest.dropWhile Char.isDigit)
  | _ => some cs

/-- What follows a time of day. The sixtieth second is a leap second. -/
def time? (cs : List Char) : Option (List Char) := do
  let (hour, cs) ← field? 2 cs
  let (minute, cs) ← field? 2 (← after? ':' cs)
  guard (hour ≤ 23 && minute ≤ 59)
  match cs with
  | ':' :: rest =>
      let (second, cs) ← field? 2 rest
      guard (second ≤ 60)
      fraction? cs
  | _ => return cs

/-- What follows an offset from universal time, if there is one. -/
def offset? (cs : List Char) : Option (List Char) :=
  match cs with
  | 'Z' :: rest | 'z' :: rest => some rest
  | '+' :: rest | '-' :: rest => do
      let (hours, cs) ← field? 2 rest
      let (minutes, cs) ← field? 2 (← after? ':' cs)
      guard (hours ≤ 23 && minutes ≤ 59)
      return cs
  | _ => some cs

def accepts (cs : List Char) : Bool :=
  match date? cs with
  | some [] => true
  | some (mark :: rest) =>
      (mark == 'T' || mark == 't' || mark == ' ') && ((time? rest).bind offset?) == some []
  | none => time? cs == some []

end HeaterHost.Toml.Datetime
