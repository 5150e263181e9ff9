import HostAgent.Decimal.Power

/-!
# Timestamps

An instant in universal time, by its calendar fields. A leap second is the
second 60 of its minute. The type holds valid dates only, in the years that
timestamps may have; a local time moves to universal time by whole minutes, and
since a zone is less than a day away the date moves by one day at most.

The written form has four digits for the years 0 to 9999 and a sign for all
others, and as many groups of three fraction digits as are needed.
-/

namespace HostAgent

namespace Calendar

def isLeapYear (year : Int) : Bool :=
  year % 4 = 0 && (year % 100 ≠ 0 || year % 400 = 0)

/-- The number of days of a month; no month beyond the twelfth has any. -/
def daysIn (year : Int) : Nat → Nat
  | 2 => if isLeapYear year then 29 else 28
  | 4 | 6 | 9 | 11 => 30
  | 1 | 3 | 5 | 7 | 8 | 10 | 12 => 31
  | _ => 0

def firstYear : Int := -262143

def lastYear : Int := 262142

end Calendar

/-- A calendar date. -/
structure Date where
  year : Int
  month : Nat
  day : Nat
deriving DecidableEq, Repr

namespace Date

/-- A day of the calendar, in a year that timestamps may have. -/
def Valid (d : Date) : Prop :=
  Calendar.firstYear ≤ d.year ∧ d.year ≤ Calendar.lastYear ∧
    1 ≤ d.day ∧ d.day ≤ Calendar.daysIn d.year d.month

instance (d : Date) : Decidable d.Valid := inferInstanceAs (Decidable (_ ∧ _))

def next (d : Date) : Date :=
  if d.day < Calendar.daysIn d.year d.month then { d with day := d.day + 1 }
  else if d.month < 12 then { d with month := d.month + 1, day := 1 }
  else ⟨d.year + 1, 1, 1⟩

def previous (d : Date) : Date :=
  if 1 < d.day then { d with day := d.day - 1 }
  else if 1 < d.month then
    { d with month := d.month - 1, day := Calendar.daysIn d.year (d.month - 1) }
  else ⟨d.year - 1, 12, 31⟩

end Date

/-- A date and a time of day, in some zone. -/
structure DateTime where
  date : Date
  hour : Nat
  minute : Nat
  second : Nat
  nanos : Nat
deriving DecidableEq, Repr

namespace DateTime

def Valid (t : DateTime) : Prop :=
  t.date.Valid ∧ t.hour < 24 ∧ t.minute < 60 ∧ t.second ≤ 60 ∧ t.nanos < tenPow 9

instance (t : DateTime) : Decidable t.Valid := inferInstanceAs (Decidable (_ ∧ _))

/-- The time so many minutes earlier, for less than a day. -/
def earlier (t : DateTime) (minutes : Int) : DateTime :=
  let m : Int := t.hour * 60 + t.minute - minutes
  let date := if m < 0 then t.date.previous else if 1440 ≤ m then t.date.next else t.date
  let m := (m % 1440).toNat
  { t with date, hour := m / 60, minute := m % 60 }

end DateTime

/-- An instant in universal time. -/
structure Timestamp where
  time : DateTime
  valid : time.Valid
deriving DecidableEq

instance : Repr Timestamp := ⟨fun t n => reprPrec t.time n⟩

namespace Timestamp

/-- The start of the year 1970. -/
def epoch : Timestamp := ⟨⟨⟨1970, 1, 1⟩, 0, 0, 0, 0⟩, by decide⟩

instance : Inhabited Timestamp := ⟨epoch⟩

/-- A local time in a zone so many minutes east. -/
def ofLocal? (t : DateTime) (offset : Int) : Option Timestamp :=
  if t.Valid ∧ -1440 < offset ∧ offset < 1440 then
    let u := t.earlier offset
    if h : u.Valid then some ⟨u, h⟩ else none
  else none

/-- A number in at least `width` digits. -/
def padded (width n : Nat) : List Char :=
  let ds := Nat.toDigits 10 n
  List.replicate (width - ds.length) '0' ++ ds

def yearChars (year : Int) : List Char :=
  if 0 ≤ year ∧ year ≤ 9999 then padded 4 year.toNat
  else (if year < 0 then '-' else '+') :: padded 4 year.natAbs

/-- The fraction of a second, in as many groups of three digits as it needs. -/
def fractionChars (nanos : Nat) : List Char :=
  if nanos = 0 then []
  else if nanos % tenPow 6 = 0 then '.' :: padded 3 (nanos / tenPow 6)
  else if nanos % tenPow 3 = 0 then '.' :: padded 6 (nanos / tenPow 3)
  else '.' :: padded 9 nanos

def toChars (t : Timestamp) : List Char :=
  let u := t.time
  yearChars u.date.year ++ '-' :: padded 2 u.date.month ++ '-' :: padded 2 u.date.day ++
    'T' :: padded 2 u.hour ++ ':' :: padded 2 u.minute ++ ':' :: padded 2 u.second ++
    fractionChars u.nanos ++ ['Z']

def render (t : Timestamp) : String := String.ofList t.toChars

end Timestamp

end HostAgent
