import MediaTiers.Decimal.Basic

/-! Calendar days and moments of the day, and their written forms. -/
namespace MediaTiers

structure Day where
  year : Nat
  month : Nat
  day : Nat
  deriving DecidableEq, Repr

/-- A time on a day; `zone` is the distance from universal time in minutes, if it is known. -/
structure Moment where
  day : Day
  hour : Nat
  minute : Nat
  second : Nat
  micro : Nat
  zone : Option Int
  deriving DecidableEq, Repr

def padded (width n : Nat) : String :=
  let ds := Decimal.digits n
  String.ofList (List.replicate (width - ds.length) '0' ++ ds)

def Day.isLeapYear (year : Nat) : Bool :=
  year % 4 == 0 && (year % 100 != 0 || year % 400 == 0)

def Day.daysIn (year month : Nat) : Nat :=
  if month = 2 then if Day.isLeapYear year then 29 else 28
  else if month = 4 ∨ month = 6 ∨ month = 9 ∨ month = 11 then 30
  else 31

def Day.daysBefore (year : Nat) : Nat :=
  let past := year - 1
  past * 365 + past / 4 - past / 100 + past / 400

def Day.ordinal (d : Day) : Nat :=
  (List.range (d.month - 1)).foldl (fun n m => n + Day.daysIn d.year (m + 1))
    (Day.daysBefore d.year + d.day)

/-- A moment on the scale of universal time, in millionths of a second. Without a zone it is taken as
it stands. -/
def Moment.instant (m : Moment) : Int :=
  let minutes : Int := (m.day.ordinal * 24 + m.hour) * 60 + m.minute
  ((minutes - m.zone.getD 0) * 60 + m.second) * 1000000 + m.micro

def Day.iso (d : Day) : String :=
  padded 4 d.year ++ "-" ++ padded 2 d.month ++ "-" ++ padded 2 d.day

def zoneText (minutes : Int) : String :=
  (if minutes < 0 then "-" else "+") ++ padded 2 (minutes.natAbs / 60) ++ ":"
    ++ padded 2 (minutes.natAbs % 60)

def Moment.iso (joint : String) (m : Moment) : String :=
  m.day.iso ++ joint ++ padded 2 m.hour ++ ":" ++ padded 2 m.minute ++ ":" ++ padded 2 m.second
    ++ (if m.micro = 0 then "" else "." ++ padded 6 m.micro)
    ++ (m.zone.map zoneText).getD ""

end MediaTiers
