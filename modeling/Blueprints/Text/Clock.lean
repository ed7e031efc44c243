
namespace Blueprints.Text

/-- The present, in seconds since the epoch. -/
def presentSeconds : Int := 1704067200

/-- A date and time of day. -/
structure CivilTime where
  year : Int
  month : Nat
  day : Nat
  hour : Nat
  minute : Nat
  second : Nat
  weekday : Nat
deriving Repr, Inhabited, DecidableEq

/-- The year, month and day of a count of days since the epoch. -/
def civilOfDays (days : Int) : Int × Nat × Nat :=
  let z := days + 719468
  let era := Int.fdiv z 146097
  let doe := (z - era * 146097).toNat
  let yoe := (doe - doe / 1460 + doe / 36524 - doe / 146096) / 365
  let doy := doe - (365 * yoe + yoe / 4 - yoe / 100)
  let mp := (5 * doy + 2) / 153
  let d := doy - (153 * mp + 2) / 5 + 1
  let m := if mp < 10 then mp + 3 else mp - 9
  let y := (yoe : Int) + era * 400 + (if m ≤ 2 then 1 else 0)
  (y, m, d)

/-- The count of days since the epoch of a date. -/
def daysOfCivil (year : Int) (month day : Nat) : Int :=
  let y := if month ≤ 2 then year - 1 else year
  let era := Int.fdiv y 400
  let yoe := (y - era * 400).toNat
  let mp := if month > 2 then month - 3 else month + 9
  let doy := (153 * mp + 2) / 5 + day - 1
  let doe := yoe * 365 + yoe / 4 - yoe / 100 + doy
  era * 146097 + doe - 719468

def civilOf (t : Int) : CivilTime :=
  let days := Int.fdiv t 86400
  let secs := (t - days * 86400).toNat
  let (year, month, day) := civilOfDays days
  { year, month, day, hour := secs / 3600, minute := secs % 3600 / 60, second := secs % 60,
    weekday := (Int.emod (days + 4) 7).toNat }

/-- The number that a run of digits spells. -/
def digitsValue (cs : List Char) : Option Nat :=
  if cs.isEmpty || !cs.all Char.isDigit then none
  else some (cs.foldl (fun n c => n * 10 + (c.toNat - '0'.toNat)) 0)

/-- The instant of a time written `YYYY-MM-DDTHH:MM:SS`, with an optional fraction of a second
    and an optional zone, `Z` or an offset `±HH:MM`; the fraction is dropped. -/
def isoSeconds? (s : String) : Option Int := do
  let cs := s.toList
  let year <- digitsValue (cs.take 4)
  guard (cs[4]? == some '-')
  let month <- digitsValue ((cs.drop 5).take 2)
  guard (cs[7]? == some '-')
  let day <- digitsValue ((cs.drop 8).take 2)
  guard (cs[10]? == some 'T' || cs[10]? == some ' ')
  let hour <- digitsValue ((cs.drop 11).take 2)
  guard (cs[13]? == some ':')
  let minute <- digitsValue ((cs.drop 14).take 2)
  guard (cs[16]? == some ':')
  let second <- digitsValue ((cs.drop 17).take 2)
  let rest := cs.drop 19
  let rest := match rest with
    | '.' :: more => more.dropWhile Char.isDigit
    | _ => rest
  let offset <- match rest with
    | [] | ['Z'] => some (0 : Int)
    | sign :: more =>
      let hh <- digitsValue (more.take 2)
      let mm <- if more.length == 2 then some 0
        else if more[2]? == some ':' then digitsValue (more.drop 3) else digitsValue (more.drop 2)
      let total : Int := (hh * 3600 + mm * 60 : Nat)
      if sign == '+' then some total else if sign == '-' then some (-total) else none
  guard (1 ≤ month && month ≤ 12 && 1 ≤ day && day ≤ 31 && hour < 24 && minute < 60 && second < 60)
  pure (daysOfCivil year month day * 86400 + (hour * 3600 + minute * 60 + second : Nat) - offset)

/-- The short English names of the weekdays, from Sunday. -/
def weekdayNames : List String := ["Sun", "Mon", "Tue", "Wed", "Thu", "Fri", "Sat"]

/-- The short English names of the months, from January. -/
def monthNames : List String :=
  ["Jan", "Feb", "Mar", "Apr", "May", "Jun", "Jul", "Aug", "Sep", "Oct", "Nov", "Dec"]

/-- A number written with at least two digits. -/
def twoDigits (n : Nat) : String := if n < 10 then "0" ++ toString n else toString n

def twoPlaces (n : Nat) : String := if n < 10 then " " ++ toString n else toString n

/-- An instant as weekday, month, day, time and year. -/
def ctime (t : Int) : String :=
  let c := civilOf t
  weekdayNames.getD c.weekday "" ++ " " ++ monthNames.getD (c.month - 1) "" ++ " " ++
    twoPlaces c.day ++ " " ++ twoDigits c.hour ++ ":" ++ twoDigits c.minute ++ ":" ++
    twoDigits c.second ++ " " ++ toString c.year

/-- An instant as date and time of day: `2023-11-14 22:13:20`. -/
def stampText (t : Int) : String :=
  let c := civilOf t
  toString c.year ++ "-" ++ twoDigits c.month ++ "-" ++ twoDigits c.day ++ " " ++
    twoDigits c.hour ++ ":" ++ twoDigits c.minute ++ ":" ++ twoDigits c.second

/-- A span of seconds as days, hours, minutes and seconds: `1 day, 2:03:04`, or `0:01:30`
    within a day; a negative span counts whole days back and the time forward. -/
def spanText (seconds : Int) : String :=
  let days := Int.fdiv seconds 86400
  let rem := (seconds - days * 86400).toNat
  let clock := toString (rem / 3600) ++ ":" ++ twoDigits (rem % 3600 / 60) ++ ":" ++
    twoDigits (rem % 60)
  if days == 0 then clock
  else toString days ++ " day" ++ (if days.natAbs == 1 then "" else "s") ++ ", " ++ clock

/-- A distance with the direction from the present: in the past or the future. -/
def relative (past : Bool) (distance : String) : String :=
  if past then distance ++ " ago" else "in " ++ distance

/-- How far an instant lies from the present, in words. -/
def ago (t : Int) : String :=
  let delta := t - presentSeconds
  let past := delta < 0
  let diff := delta.natAbs
  let count (n : Nat) (unit : String) : String := relative past (toString n ++ " " ++ unit)
  if diff < 10 then "just now"
  else if diff < 45 then relative past "seconds"
  else if diff < 90 then relative past "a minute"
  else if diff < 2700 then count (max (diff / 60) 2) "minutes"
  else if diff < 5400 then relative past "an hour"
  else if diff < 79200 then count (max (diff / 3600) 2) "hours"
  else if diff < 129600 then relative past "a day"
  else if diff < 2592000 then count (max (diff / 86400) 2) "days"
  else if diff < 3888000 then relative past "a month"
  else if diff < 29808000 then
    let monthsOf (c : CivilTime) : Int := c.year * 12 + c.month
    let months := (monthsOf (civilOf t) - monthsOf (civilOf presentSeconds)).natAbs
    count (max months 2) "months"
  else if diff < 47260800 then relative past "a year"
  else count (max (diff / 31536000) 2) "years"

end Blueprints.Text
