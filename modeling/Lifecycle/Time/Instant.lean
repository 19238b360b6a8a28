import Lifecycle.Time.Date

/-!
# Instants

Moments of coordinated universal time to the nanosecond. A leap second is the continuation of the
last second of a minute: its nanoseconds count on from a thousand million.
-/

namespace Lifecycle

namespace Time

/-- The nanoseconds of a second. -/
def nanosPerSecond : Nat := 1000000000

/-- The minutes of a day. -/
def minutesPerDay : Nat := 1440

/-- Whether minute of the day, second and nanosecond name a moment of a day. Only the last second
of a minute may have a leap second behind it. -/
def IsTimeOfDay (minute second nano : Nat) : Prop :=
  minute < minutesPerDay ∧ second < 60 ∧
    (nano < nanosPerSecond ∨ (second = 59 ∧ nano < 2 * nanosPerSecond))

instance (minute second nano : Nat) : Decidable (IsTimeOfDay minute second nano) :=
  inferInstanceAs (Decidable (_ ∧ _ ∧ _))

/-- A moment of coordinated universal time. Nanoseconds beyond a second are left out behind any second
but the last one of a minute: only setting the nanosecond of a moment by hand makes them, and they are
no valid timestamps of coordinated universal time. -/
structure Instant where
  /-- The day. -/
  date : Date
  /-- The minute of the day. -/
  minute : Nat
  /-- The second of the minute. -/
  second : Nat
  /-- The nanosecond of the second, a thousand million and more within a leap second. -/
  nano : Nat
  /-- There is such a moment. -/
  valid : IsTimeOfDay minute second nano
deriving DecidableEq, Repr

namespace Instant

/-- The beginning of 1970. -/
def epoch : Instant where
  date := .epoch
  minute := 0
  second := 0
  nano := 0
  valid := by decide

/-- Whether the moment lies in a leap second. -/
def isLeap (instant : Instant) : Bool :=
  nanosPerSecond ≤ instant.nano

/-- The second of the day, a leap second counting as the one before it. -/
def secondOfDay (instant : Instant) : Nat :=
  60 * instant.minute + instant.second

/-- The same local time, read at a place whose clocks are `offset` minutes ahead. The offset is
less than a day, and the moment may leave the calendar. -/
def ofLocal? (clock : Instant) (offset : Int) : Option Instant :=
  -- minutes from midnight of the local day: before it, within it or after it
  let shifted := (clock.minute : Int) - offset
  let day? : Option Date :=
    if shifted < 0 then clock.date.previous?
    else if shifted < minutesPerDay then some clock.date
    else clock.date.next?
  let minute := (shifted % minutesPerDay).toNat
  have valid : IsTimeOfDay minute clock.second clock.nano := by
    have := clock.valid
    simp only [IsTimeOfDay, minutesPerDay, minute] at *
    omega
  day?.map fun date => { clock with date, minute, valid }

/-- A span of time of whole seconds and nanoseconds. -/
structure Span where
  /-- The whole seconds, rounded down. -/
  seconds : Int
  /-- The nanoseconds beyond. -/
  nanos : Nat
deriving DecidableEq, Repr

/-- The leap second that lies between two moments of a day and is not yet counted by the seconds
of the day: that of the earlier of the two. -/
def uncountedLeap (later earlier : Instant) : Int :=
  if earlier.secondOfDay < later.secondOfDay then if earlier.isLeap then 1 else 0
  else if later.secondOfDay < earlier.secondOfDay then if later.isLeap then -1 else 0
  else 0

/-- The time from one moment to another. Days have the same length throughout, and a leap second
counts only when one of the two moments lies in it. -/
def since (later earlier : Instant) : Span :=
  let days := later.date.number - earlier.date.number
  let seconds := 86400 * days + ((later.secondOfDay : Int) - earlier.secondOfDay) +
    uncountedLeap later earlier
  let nanos := (later.nano : Int) - earlier.nano
  { seconds := seconds + nanos / nanosPerSecond, nanos := (nanos % nanosPerSecond).toNat }

end Instant

end Time

end Lifecycle
