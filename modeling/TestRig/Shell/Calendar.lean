/-!
Dates of the clock in universal time, and the C library's way of writing them (`strftime` in
the C locale), as `printf`'s `%(format)T` uses it.

A time is a count of seconds from the start of 1970. Its day is split into the civil year,
month and day by the usual count of days in 400-year eras (`civilOfDays`), so that negative
times are days before 1970 as well.
-/

namespace TestRig.Shell

/-- A moment of the clock, split into its parts. -/
structure ClockTime where
  year : Int
  month : Nat
  day : Nat
  hour : Nat
  minute : Nat
  second : Nat
  weekday : Nat
  yearDay : Nat
  seconds : Int
  deriving Inhabited

def isLeapYear (y : Int) : Bool := (y % 4 == 0 && y % 100 != 0) || y % 400 == 0

def daysBeforeMonth (leap : Bool) (m : Nat) : Nat :=
  let lengths := [31, if leap then 29 else 28, 31, 30, 31, 30, 31, 31, 30, 31, 30, 31]
  (lengths.take (m - 1)).foldl (· + ·) 0

def civilOfDays (z : Int) : Int × Nat × Nat :=
  let z := z + 719468
  let era := z / 146097
  let doe := z - era * 146097
  let yoe := (doe - doe / 1460 + doe / 36524 - doe / 146096) / 365
  let y := yoe + era * 400
  let doy := doe - (365 * yoe + yoe / 4 - yoe / 100)
  let mp := (5 * doy + 2) / 153
  let d := doy - (153 * mp + 2) / 5 + 1
  let m := if mp < 10 then mp + 3 else mp - 9
  ((if m ≤ 2 then y + 1 else y), m.toNat, d.toNat)

def ClockTime.ofSeconds (t : Int) : ClockTime :=
  let days := t / 86400 - (if t % 86400 < 0 then 1 else 0)
  let secs := (t - days * 86400).toNat
  let (year, month, day) := civilOfDays days
  { year, month, day
    hour := secs / 3600, minute := secs / 60 % 60, second := secs % 60
    weekday := ((days + 4) % 7).toNat
    yearDay := daysBeforeMonth (isLeapYear year) month + day - 1
    seconds := t }

def weekdayNames : List String :=
  ["Sunday", "Monday", "Tuesday", "Wednesday", "Thursday", "Friday", "Saturday"]

def monthNames : List String :=
  ["January", "February", "March", "April", "May", "June", "July", "August", "September",
   "October", "November", "December"]

def ClockTime.weekOfYear (c : ClockTime) (first : Nat) : Nat :=
  (c.yearDay + 7 - (c.weekday + 7 - first) % 7) / 7

def ClockTime.isoWeek (c : ClockTime) : Int × Nat :=
  let wday := (c.weekday + 6) % 7
  -- the day of the year of this week's Thursday, which may lie in the year before or after
  let thursday : Int := (c.yearDay : Int) - wday + 3
  let yearLength (y : Int) : Int := if isLeapYear y then 366 else 365
  if thursday < 0 then
    let prev := c.year - 1
    (prev, ((thursday + yearLength prev) / 7).toNat + 1)
  else if thursday ≥ yearLength c.year then (c.year + 1, 1)
  else (c.year, (thursday / 7).toNat + 1)

def ClockTime.wordYear (c : ClockTime) : Int :=
  let y := c.year % Int.pow 2 32
  if y ≥ Int.pow 2 31 then y - Int.pow 2 32 else y

def ClockTime.hour12 (c : ClockTime) : Nat := if c.hour % 12 == 0 then 12 else c.hour % 12

/-- How a number of a date is padded: with zeros, with blanks, or not at all. -/
inductive DatePad where
  | zeros
  | blanks
  | none
  deriving DecidableEq, Inhabited

def padDateNumber (pad : DatePad) (width : Nat) (v : Int) : String :=
  let digits := toString v.natAbs
  let sign := if v < 0 then "-" else ""
  let room := width - (sign.length + digits.length)
  match pad with
  | .zeros => sign ++ String.ofList (List.replicate room '0') ++ digits
  | .blanks => String.ofList (List.replicate room ' ') ++ sign ++ digits
  | .none => sign ++ digits

def composedFormat : Char → Option String
  | 'c' => some "%a %b %e %H:%M:%S %Y"
  | 'D' | 'x' => some "%m/%d/%y"
  | 'F' => some "%Y-%m-%d"
  | 'r' => some "%I:%M:%S %p"
  | 'R' => some "%H:%M"
  | 'T' | 'X' => some "%H:%M:%S"
  | _ => none

def ClockTime.conversion (c : ClockTime) (pad : Option DatePad) (width : Option Nat) :
    Char → Option String
  | 'a' => some (String.ofList (((weekdayNames.getD c.weekday "").toList).take 3))
  | 'A' => some (weekdayNames.getD c.weekday "")
  | 'b' | 'h' => some (String.ofList (((monthNames.getD (c.month - 1) "").toList).take 3))
  | 'B' => some (monthNames.getD (c.month - 1) "")
  | 'C' => some (number .zeros 1 (c.wordYear / 100 - (if c.wordYear % 100 < 0 then 1 else 0)))
  | 'd' => some (number .zeros 2 c.day)
  | 'e' => some (number .blanks 2 c.day)
  | 'g' => some (number .zeros 2 (c.isoWeek.1 % 100))
  | 'G' => some (number .zeros 1 c.isoWeek.1)
  | 'H' => some (number .zeros 2 c.hour)
  | 'I' => some (number .zeros 2 c.hour12)
  | 'j' => some (number .zeros 3 (c.yearDay + 1))
  | 'k' => some (number .blanks 2 c.hour)
  | 'l' => some (number .blanks 2 c.hour12)
  | 'm' => some (number .zeros 2 c.month)
  | 'M' => some (number .zeros 2 c.minute)
  | 'n' => some "\n"
  | 'p' => some (if c.hour < 12 then "AM" else "PM")
  | 'P' => some (if c.hour < 12 then "am" else "pm")
  | 's' => some (number .none 1 c.seconds)
  | 'S' => some (number .zeros 2 c.second)
  | 't' => some "\t"
  | 'u' => some (number .none 1 (if c.weekday == 0 then 7 else c.weekday))
  | 'U' => some (number .zeros 2 (c.weekOfYear 0))
  | 'V' => some (number .zeros 2 c.isoWeek.2)
  | 'w' => some (number .none 1 c.weekday)
  | 'W' => some (number .zeros 2 (c.weekOfYear 1))
  | 'y' => some (number .zeros 2 (c.year % 100))
  | 'Y' => some (number .zeros 1 c.wordYear)
  | 'z' => some "+0000"
  | 'Z' => some "UTC"
  | '%' => some "%"
  | _ => none
where
  number (dflt : DatePad) (places : Nat) (v : Int) : String :=
    padDateNumber (pad.getD dflt) (width.getD places) v

def widen (pad : Option DatePad) (width : Option Nat) (text : String) : String :=
  match width with
  | some w =>
    if text.length < w then String.ofList (List.replicate (w - text.length) (if pad == some .zeros then '0' else ' ')) ++ text
    else text
  | none => text

def ClockTime.layout (c : ClockTime) (fmt : String) : String :=
  go (20 * (fmt.length + 1)) fmt.toList ""
where
  go : Nat → List Char → String → String
    | 0, _, acc => acc
    | _, [], acc => acc
    | n + 1, '%' :: rest, acc =>
      let flags := rest.takeWhile fun ch => "-_0^#".contains ch
      let afterFlags := rest.drop flags.length
      let digits := afterFlags.takeWhile Char.isDigit
      let afterWidth := afterFlags.drop digits.length
      let afterWidth := afterWidth.dropWhile fun ch => ch == 'E' || ch == 'O'
      let pad : Option DatePad :=
        flags.foldl (fun p ch =>
          if ch == '-' then some .none else if ch == '_' then some .blanks
          else if ch == '0' then some .zeros else p) Option.none
      let width := if digits.isEmpty then Option.none else (String.ofList digits).toNat?
      match afterWidth with
      | letter :: more =>
        match composedFormat letter with
        | some inner =>
          let text := go n inner.toList ""
          let text := if flags.contains '^' then text.toUpper else text
          go n more (acc ++ widen pad width text)
        | Option.none =>
        match c.conversion pad width letter with
        | some text =>
          let text := if flags.contains '^' then text.toUpper else text
          go n more (acc ++ widen pad width text)
        | Option.none => go n more (acc ++ widen pad width ("%" ++ String.ofList (rest.take (rest.length - more.length))))
      | [] => acc ++ widen pad width ("%" ++ String.ofList rest)
    | n + 1, ch :: rest, acc => go n rest (acc.push ch)

end TestRig.Shell
