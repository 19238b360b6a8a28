import Lifecycle.Text.Blank
import Lifecycle.Text.Utf8
import Lifecycle.Time.Instant

/-!
# Instants as text

The date, the letter `T`, the time and the letter `Z`, after RFC 3339. Writing gives a fraction of
three, six or nine digits, the fewest that are exact, and signs years outside 0 to 9999. Reading
is more lenient: blanks may surround the parts, and the time may be local, followed by its offset.
Each part is checked for its own range as it is read, and the calendar at the end.
-/

namespace Lifecycle

namespace Time

/-- A natural in decimal, padded with zeros on the left. -/
def padded (width value : Nat) : List Char :=
  let digits := (toString value).toList
  List.replicate (width - digits.length) '0' ++ digits

/-- A year: four digits, and outside 0 to 9999 a sign before them. -/
def writeYear (year : Int) : List Char :=
  if 0 ≤ year ∧ year ≤ 9999 then padded 4 year.toNat
  else (if year < 0 then '-' else '+') :: padded 4 year.natAbs

/-- A date. -/
def writeDate (date : Date) : List Char :=
  writeYear date.year ++ '-' :: padded 2 date.month ++ '-' :: padded 2 date.day

/-- A fraction of a second, in the fewest groups of three digits that are exact. -/
def writeFraction (nano : Nat) : List Char :=
  if nano = 0 then []
  else if nano % 1000000 = 0 then '.' :: padded 3 (nano / 1000000)
  else if nano % 1000 = 0 then '.' :: padded 6 (nano / 1000)
  else '.' :: padded 9 nano

namespace Instant

/-- The text of an instant. A leap second is the second with the number 60. -/
def write (instant : Instant) : List Char :=
  writeDate instant.date ++ 'T' :: padded 2 (instant.minute / 60) ++
    ':' :: padded 2 (instant.minute % 60) ++
    ':' :: padded 2 (instant.second + instant.nano / nanosPerSecond) ++
    writeFraction (instant.nano % nanosPerSecond) ++ ['Z']

/-- The text of an instant. -/
def text (instant : Instant) : String :=
  String.ofList instant.write

/-- Why a text is no instant. -/
inductive ReadError where
  /-- The text ends too early. -/
  | premature
  /-- Something else is due here. -/
  | invalid
  /-- A number is outside its range, or there is no such day. -/
  | outOfRange
  /-- Something follows the instant. -/
  | trailing
  /-- The offset leads out of the calendar. -/
  | impossible
deriving DecidableEq, Repr

namespace ReadError

/-- The error in words. -/
def message : ReadError → String
  | premature => "premature end of input"
  | invalid => "input contains invalid characters"
  | outOfRange => "input is out of range"
  | trailing => "trailing input"
  | impossible => "no possible date and time matching input"

end ReadError

end Instant

namespace Rfc3339

open Instant (ReadError)

/-- The natural that some digits spell. -/
def natural (digits : List Char) : Nat :=
  digits.foldl (fun number c => 10 * number + (c.toNat - '0'.toNat)) 0

/-- At least one digit, and at most `width` of them if there is such a limit. The number must fit
63 bits. -/
def readNatural (width : Option Nat) (text : List Char) :
    Except ReadError (Nat × List Char) :=
  match text with
  | [] => .error .premature
  | c :: _ =>
    if c.isDigit then
      let run := text.takeWhile Char.isDigit
      let digits := (width.map run.take).getD run
      if natural digits < Nat.pow 2 63 then .ok (natural digits, text.drop digits.length)
      else .error .outOfRange
    else .error .invalid

/-- Blanks, and a number of one or two digits between two bounds. -/
def readField (low high : Nat) (text : List Char) : Except ReadError (Nat × List Char) := do
  let (value, rest) ← readNatural (some 2) (Text.trimStart text)
  if low ≤ value ∧ value ≤ high then return (value, rest) else throw .outOfRange

/-- Blanks, and a year: any number of digits after a sign, and else at most four. The year must
fit 32 bits. -/
def readYear (text : List Char) : Except ReadError (Int × List Char) := do
  let (year, rest) ← match Text.trimStart text with
    | '-' :: rest => do
      let (value, rest) ← readNatural none rest
      pure (-(value : Int), rest)
    | '+' :: rest => do
      let (value, rest) ← readNatural none rest
      pure ((value : Int), rest)
    | rest => do
      let (value, rest) ← readNatural (some 4) rest
      pure ((value : Int), rest)
  if -2147483648 ≤ year ∧ year ≤ 2147483647 then return (year, rest) else throw .outOfRange

/-- Blanks, and a given character. -/
def readMark (mark : Char) (text : List Char) : Except ReadError (List Char) :=
  match Text.trimStart text with
  | [] => .error .premature
  | c :: rest => if c = mark then .ok rest else .error .invalid

/-- The letter or the space between date and time. -/
def readSeparator (text : List Char) : Except ReadError (List Char) :=
  match text with
  | [] => .error .premature
  | c :: rest => if c = 'T' ∨ c = 't' ∨ c = ' ' then .ok rest else .error .invalid

/-- A fraction of a second in nanoseconds, if a point follows. Digits after the ninth are
dropped. -/
def readFraction (text : List Char) : Except ReadError (Nat × List Char) :=
  match text with
  | '.' :: rest => do
    let (value, _) ← readNatural (some 9) rest
    let digits := rest.takeWhile Char.isDigit
    return (value * Nat.pow 10 (9 - digits.length), rest.dropWhile Char.isDigit)
  | _ => .ok (0, text)

/-- Two digits. A text of less than two bytes ends too early, whatever it holds. -/
def readPair (text : List Char) : Except ReadError (Nat × List Char) :=
  match text with
  | high :: low :: rest =>
    if high.isDigit ∧ low.isDigit then .ok (natural [high, low], rest) else .error .invalid
  | _ => if Text.Utf8.size text < 2 then .error .premature else .error .invalid

/-- A text without the colons and blanks that it starts with. -/
def trimColons (text : List Char) : List Char :=
  text.dropWhile fun c => c == ':' || Text.isBlank c

/-- The letters `UTC` of either case, and the rest. -/
def universal? : List Char → Option (List Char)
  | u :: t :: c :: rest =>
    if (u = 'U' ∨ u = 'u') ∧ (t = 'T' ∨ t = 't') ∧ (c = 'C' ∨ c = 'c') then some rest else none
  | _ => none

/-- The sign of an offset. -/
def readSign (text : List Char) : Except ReadError (Bool × List Char) :=
  match text with
  | [] => .error .premature
  | c :: rest =>
    if c = '+' then .ok (false, rest)
    else if c = '-' ∨ c = '−' then .ok (true, rest)
    else .error .invalid

/-- Blanks, and an offset in minutes: `UTC`, the letter `Z`, or hours and minutes with a sign. -/
def readOffset (text : List Char) : Except ReadError (Int × List Char) :=
  let text := Text.trimStart text
  match universal? text with
  | some rest => .ok (0, rest)
  | none =>
    match text with
    | 'Z' :: rest => .ok (0, rest)
    | 'z' :: rest => .ok (0, rest)
    | _ => do
      let (negative, rest) ← readSign text
      let (hours, rest) ← readPair rest
      let (minutes, rest) ← readPair (trimColons rest)
      if 60 ≤ minutes then throw .outOfRange
      let offset : Int := 60 * hours + minutes
      return (if negative then -offset else offset, rest)

/-- The moment that the parts of a local time name. The second with the number 60 is a leap
second. -/
def assemble (year : Int) (month day hour minute second nano : Nat) (offset : Int) :
    Except ReadError Instant := do
  let some date := Date.of? year month day | throw .outOfRange
  let lastSecond := min second 59
  let nanos := if second = 60 then nanosPerSecond + nano else nano
  if valid : IsTimeOfDay (60 * hour + minute) lastSecond nanos then
    let clock : Instant :=
      { date, minute := 60 * hour + minute, second := lastSecond, nano := nanos, valid }
    if minutesPerDay ≤ offset.natAbs then throw .outOfRange
    match clock.ofLocal? offset with
    | some instant => return instant
    | none => throw .impossible
  else throw .outOfRange

/-- Read an instant. -/
def read (text : List Char) : Except ReadError Instant := do
  -- the date
  let (year, text) ← readYear text
  let text ← readMark '-' text
  let (month, text) ← readField 1 12 text
  let text ← readMark '-' text
  let (day, text) ← readField 1 31 text
  let text ← readSeparator text
  -- the time of day
  let (hour, text) ← readField 0 23 text
  let text ← readMark ':' text
  let (minute, text) ← readField 0 59 text
  let text ← readMark ':' text
  let (second, text) ← readField 0 60 text
  let (nano, text) ← readFraction text
  let (offset, text) ← readOffset text
  -- text that is left over is a fault even where the calendar has no such day
  if (Text.trimStart text).isEmpty then
    assemble year month day hour minute second nano offset
  else throw .trailing

end Rfc3339

namespace Instant

/-- Read an instant. -/
def parse (text : String) : Except ReadError Instant :=
  Rfc3339.read text.toList

end Instant

end Time

end Lifecycle
