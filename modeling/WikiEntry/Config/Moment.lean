import WikiEntry.Text.Pieces

/-!
# Moments

A moment is a day, a time of day, or both; with both it may say how far the clock is from universal
time. It is written with fixed numbers of digits, as in `1979-05-27T07:32:00.5+01:00`, and only one
text is printed for it: `read?` also takes a small `t` or a blank before the time, a small `z`, and
zeros at the end of a fraction.

A day has to be one of the calendar. Hours go up to 23 and minutes up to 59, also in the distance
from universal time, and a clock may show the second 60.
-/

namespace WikiEntry.Config

structure Day where
  year : Nat
  /-- The month, from 1. -/
  month : Nat
  day : Nat
  deriving DecidableEq, Repr

structure Clock where
  hour : Nat
  minute : Nat
  second : Nat
  nanosecond : Nat
  deriving DecidableEq, Repr

/-- How a clock is set. -/
inductive Zone where
  | universal
  /-- That many minutes ahead of universal time. -/
  | ahead (minutes : Int)
  deriving DecidableEq, Repr

inductive Moment where
  | day (day : Day)
  /-- A time on any day. -/
  | clock (clock : Clock)
  /-- A time of a day, anywhere. -/
  | civil (day : Day) (clock : Clock)
  /-- A time of a day by a clock that is set as given. -/
  | instant (day : Day) (clock : Clock) (zone : Zone)
  deriving DecidableEq, Repr

def isLeap (year : Nat) : Bool := year % 4 = 0 && (year % 100 ≠ 0 || year % 400 = 0)

def daysIn (year month : Nat) : Nat :=
  if month = 2 then (if isLeap year then 29 else 28)
  else if [4, 6, 9, 11].contains month then 30
  else 31

def Day.isValid (d : Day) : Bool :=
  1 ≤ d.month && d.month ≤ 12 && 1 ≤ d.day && d.day ≤ daysIn d.year d.month

def Clock.isValid (c : Clock) : Bool := c.hour ≤ 23 && c.minute ≤ 59 && c.second ≤ 60

namespace Moment

def ofDigits (digits : List Char) : Nat := digits.foldl (fun n c => 10 * n + (c.toNat - 48)) 0

/-- The number in the next `count` characters, and the rest. -/
def number? (count : Nat) (text : List Char) : Option (Nat × List Char) :=
  let digits := text.take count
  if digits.length = count ∧ digits.all Char.isDigit then some (ofDigits digits, text.drop count)
  else none

def numberAfter? (c : Char) (count : Nat) (text : List Char) : Option (Nat × List Char) :=
  (Text.after? [c] text).bind (number? count)

def day? (text : List Char) : Option (Day × List Char) := do
  let (year, text) ← number? 4 text
  let (month, text) ← numberAfter? '-' 2 text
  let (number, text) ← numberAfter? '-' 2 text
  let found : Day := ⟨year, month, number⟩
  if found.isValid then some (found, text) else none

/-- A fraction of a second in billionths, and the rest. Digits after the ninth do not count. -/
def fraction? : List Char → Option (Nat × List Char)
  | '.' :: text =>
    let digits := text.takeWhile Char.isDigit
    if digits = [] then none
    else some (ofDigits ((digits ++ List.replicate 9 '0').take 9), text.drop digits.length)
  | text => some (0, text)

def clock? (text : List Char) : Option (Clock × List Char) := do
  let (hour, text) ← number? 2 text
  let (minute, text) ← numberAfter? ':' 2 text
  let (second, text) ← numberAfter? ':' 2 text
  let (nanosecond, text) ← fraction? text
  let found : Clock := ⟨hour, minute, second, nanosecond⟩
  if found.isValid then some (found, text) else none

/-- The setting of a clock, with nothing after it. -/
def zone? : List Char → Option Zone
  | ['Z'] => some .universal
  | ['z'] => some .universal
  | sign :: text => do
    let (hours, text) ← number? 2 text
    let (minutes, text) ← numberAfter? ':' 2 text
    if text ≠ [] ∨ 23 < hours ∨ 59 < minutes then none
    else match sign with
      | '+' => some (.ahead (60 * hours + minutes : Nat))
      | '-' => some (.ahead (-(60 * hours + minutes : Nat)))
      | _ => none
  | [] => none

/-- What follows a day: nothing, or a time and perhaps how the clock is set. -/
def ofDay? (d : Day) : List Char → Option Moment
  | [] => some (.day d)
  | mark :: text =>
    if ['T', 't', ' '].contains mark then do
      let (time, text) ← clock? text
      match text with
      | [] => some (.civil d time)
      | text => (zone? text).map (.instant d time)
    else none

/-- The moment that a text names. A colon in the third place marks a time without a day. -/
def read? (text : List Char) : Option Moment :=
  if text[2]? = some ':' then
    (clock? text).bind fun r => if r.2 = [] then some (.clock r.1) else none
  else
    (day? text).bind fun r => ofDay? r.1 r.2

/-- A number with zeros in front, up to `width` digits. -/
def padded (width n : Nat) : List Char :=
  let digits := n.repr.toList
  List.replicate (width - digits.length) '0' ++ digits

def dayText (d : Day) : List Char :=
  padded 4 d.year ++ '-' :: padded 2 d.month ++ '-' :: padded 2 d.day

/-- The text of billionths of a second, without zeros at the end. -/
def fractionText (nanosecond : Nat) : List Char :=
  if nanosecond = 0 then []
  else '.' :: ((padded 9 nanosecond).reverse.dropWhile (· = '0')).reverse

def clockText (c : Clock) : List Char :=
  padded 2 c.hour ++ ':' :: padded 2 c.minute ++ ':' :: padded 2 c.second ++
    fractionText c.nanosecond

def zoneText : Zone → List Char
  | .universal => ['Z']
  | .ahead minutes =>
    (if minutes < 0 then '-' else '+') ::
      padded 2 (minutes.natAbs / 60) ++ ':' :: padded 2 (minutes.natAbs % 60)

def text : Moment → String
  | .day d => String.ofList (dayText d)
  | .clock c => String.ofList (clockText c)
  | .civil d c => String.ofList (dayText d ++ 'T' :: clockText c)
  | .instant d c z => String.ofList (dayText d ++ 'T' :: clockText c ++ zoneText z)

end Moment

end WikiEntry.Config
