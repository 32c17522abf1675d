import TypedCatalog.Text.Basic

/-! Days and moments of the calendar, with their texts. -/
namespace TypedCatalog

structure Date where
  year : Nat
  month : Nat
  day : Nat
  deriving DecidableEq

/-- A moment of a day; the offset from universal time is in minutes. -/
structure Timestamp where
  date : Date
  hour : Nat
  minute : Nat
  second : Nat
  microsecond : Nat
  offset : Option Int
  deriving DecidableEq

def isLeapYear (year : Nat) : Bool :=
  year % 4 = 0 && (year % 100 ≠ 0 || year % 400 = 0)

def daysIn (year month : Nat) : Nat :=
  if month = 2 then (if isLeapYear year then 29 else 28)
  else if month = 4 || month = 6 || month = 9 || month = 11 then 30
  else 31

inductive CalendarFault where
  | year (n : Nat)
  | month
  | day
  | hour
  | minute
  | second
  /-- An offset of a day or more, in minutes. -/
  | offset (minutes : Int)
  deriving DecidableEq

def Date.check (d : Date) : Except CalendarFault Date :=
  if d.year = 0 then .error (.year d.year)
  else if d.month = 0 || 12 < d.month then .error .month
  else if d.day = 0 || daysIn d.year d.month < d.day then .error .day
  else .ok d

/-- An offset is checked before the date, and the date before the time of day. -/
def Timestamp.check (t : Timestamp) : Except CalendarFault Timestamp := do
  match t.offset with
  | some minutes => if 1440 ≤ minutes.natAbs then throw (.offset minutes)
  | none => pure ()
  let _ ← t.date.check
  if 23 < t.hour then throw .hour
  if 59 < t.minute then throw .minute
  if 59 < t.second then throw .second
  return t

def Date.text (d : Date) : Text :=
  Text.ofNatPadded 4 d.year ++ '-' :: Text.ofNatPadded 2 d.month ++ '-' :: Text.ofNatPadded 2 d.day

def offsetText (minutes : Int) : Text :=
  (if minutes < 0 then '-' else '+') :: Text.ofNatPadded 2 (minutes.natAbs / 60) ++
    ':' :: Text.ofNatPadded 2 (minutes.natAbs % 60)

def Timestamp.text (t : Timestamp) : Text :=
  t.date.text ++ ' ' :: Text.ofNatPadded 2 t.hour ++ ':' :: Text.ofNatPadded 2 t.minute ++
    ':' :: Text.ofNatPadded 2 t.second ++
    (if t.microsecond = 0 then [] else '.' :: Text.ofNatPadded 6 t.microsecond) ++
    (t.offset.map offsetText).getD []

def arguments (numbers : List Nat) : Text := Text.join ", " (numbers.map Text.ofNat)

/-- A duration as whole days and the seconds of the last day. -/
def durationText (minutes : Int) : Text :=
  let days := minutes.fdiv 1440
  let seconds := (minutes.fmod 1440).toNat * 60
  let parts := (if days = 0 then [] else ["days=" ++ Text.ofInt days]) ++
    (if seconds = 0 then [] else ["seconds=" ++ Text.ofNat seconds])
  "datetime.timedelta(" ++ (if parts = [] then "0" else Text.join ", " parts : Text) ++ ")"

def Date.quoted (d : Date) : Text :=
  "datetime.date(" ++ arguments [d.year, d.month, d.day] ++ ")"

def Timestamp.quoted (t : Timestamp) : Text :=
  let time := [t.hour, t.minute] ++
    (if t.second = 0 && t.microsecond = 0 then [] else [t.second]) ++
    (if t.microsecond = 0 then [] else [t.microsecond])
  let zone : Text := match t.offset with
    | none => []
    | some 0 => ", tzinfo=datetime.timezone.utc"
    | some minutes => ", tzinfo=datetime.timezone(" ++ durationText minutes ++ ")"
  "datetime.datetime(" ++ arguments ([t.date.year, t.date.month, t.date.day] ++ time) ++ zone ++ ")"

def CalendarFault.message : CalendarFault → Text
  | year n => "year " ++ Text.ofNat n ++ " is out of range"
  | month => "month must be in 1..12"
  | day => "day is out of range for month"
  | hour => "hour must be in 0..23"
  | minute => "minute must be in 0..59"
  | second => "second must be in 0..59"
  | offset minutes =>
    "offset must be a timedelta strictly between -timedelta(hours=24) and timedelta(hours=24), not "
      ++ durationText minutes ++ "."

end TypedCatalog
