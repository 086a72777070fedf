import ClusterProvision.Toml.Number

/-!
# `ClusterProvision.Toml.Moment`: dates and times

A moment is a date, a time of day, or a date and a time with or without an offset from
universal time. Seconds may be left out, a fraction of them may follow, and a second
may be the sixtieth. Dates are checked against the calendar.
-/

set_option autoImplicit false

namespace ClusterProvision.Toml

/-- Reads a number of exactly `count` decimal digits. -/
def fixed? (count : Nat) (cs : List Char) : Option (Nat × List Char) :=
  let front := cs.take count
  if front.length = count && front.all isDecimal then
    some (ofDigits 10 (front.map digitValue), cs.drop count)
  else none

/-- Reads a given character. -/
def expect? (c : Char) : List Char → Option (List Char)
  | d :: rest => if d = c then some rest else none
  | [] => none

/-- The number of days of a month. -/
def daysIn (year month : Nat) : Nat :=
  if month = 2 then
    if year % 4 = 0 && (year % 100 != 0 || year % 400 = 0) then 29 else 28
  else if month = 4 || month = 6 || month = 9 || month = 11 then 30
  else 31

/-- Reads a date. -/
def date? (cs : List Char) : Option (List Char) := do
  let (year, cs) ← fixed? 4 cs
  let (month, cs) ← fixed? 2 (← expect? '-' cs)
  let (day, cs) ← fixed? 2 (← expect? '-' cs)
  if 1 ≤ month && month ≤ 12 && 1 ≤ day && day ≤ daysIn year month then some cs else none

/-- Reads hours and minutes. -/
def hourMinute? (cs : List Char) : Option (List Char) := do
  let (hour, cs) ← fixed? 2 cs
  let (minute, cs) ← fixed? 2 (← expect? ':' cs)
  if hour ≤ 23 && minute ≤ 59 then some cs else none

/-- Reads a time of day. -/
def time? (cs : List Char) : Option (List Char) := do
  let cs ← hourMinute? cs
  match cs with
  | ':' :: rest =>
    let (second, rest) ← fixed? 2 rest
    if 60 < second then none
    else match rest with
      | '.' :: fraction =>
        if (fraction.takeWhile isDecimal).isEmpty then none
        else some (fraction.dropWhile isDecimal)
      | _ => some rest
  | _ => some cs

/-- Reads an offset from universal time. -/
def offset? : List Char → Option (List Char)
  | 'Z' :: rest => some rest
  | 'z' :: rest => some rest
  | '+' :: rest => hourMinute? rest
  | '-' :: rest => hourMinute? rest
  | _ => none

/-- Whether a text is a moment. -/
def isMoment (cs : List Char) : Bool :=
  match date? cs with
  | some [] => true
  | some (separator :: rest) =>
    (separator == 'T' || separator == 't' || separator == ' ') &&
      match time? rest with
      | some [] => true
      | some after => offset? after == some []
      | none => false
  | none => time? cs == some []

end ClusterProvision.Toml
