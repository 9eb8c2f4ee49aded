/-!
# Moments

A moment is a date, a time of day or both, given by its text, such as
`2024-01-02 03:04:05.000678-05:30`. `Moment.read` takes a text apart into its numbers and the
distance from universal time, and `Moment.text` writes them. Moments that give this distance are
the same when they are the same instant, and never the same as one that does not give it
(`Moment.same`); `Moment.earlier` orders those that can be compared, and `Moment.display` shows the
parts.
-/

set_option autoImplicit false

namespace SqlBuilder

/-- The three kinds of points in time. -/
inductive MomentKind where
  | date
  | dateTime
  | time
  deriving Repr, DecidableEq

/-- A point in time by its parts. -/
structure Moment where
  kind : MomentKind
  /-- Year, month, day, then hour, minute, second and microsecond, as far as the kind has them. -/
  numbers : List Nat
  /-- The distance from universal time in microseconds. -/
  offset : Option Int := none
  deriving Repr, DecidableEq

namespace Moment

/-! ## Reading -/

/-- The number of a row of digits. -/
def number (ds : List Char) : Nat := ds.foldl (fun n c => 10 * n + (c.toNat - 48)) 0

/-- The numbers of a row of digits, two by two. -/
def pairs : List Char → List Nat
  | a :: b :: ds => number [a, b] :: pairs ds
  | _ => []

/-- Year, month and day of a date as it is written. -/
def dateIn (cs : List Char) : List Nat :=
  let ds := cs.filter Char.isDigit
  number (ds.take 4) :: pairs (ds.drop 4)

/-- Hour, minute, second and microsecond of a time as it is written. What is missing is zero, also
the last digits of the fraction of a second. -/
def clockIn (cs : List Char) : List Nat :=
  let (whole, fraction) := cs.span fun c => c != '.' && c != ','
  (pairs (whole.filter Char.isDigit)).rightpad 3 0 ++
    [number (((fraction.filter Char.isDigit).rightpad 6 '0').take 6)]

/-- Microseconds in a second. -/
def perSecond : Nat := 1000000

/-- The time since midnight in microseconds. -/
def clock : List Nat → Nat
  | [h, m, s, us] => ((h * 60 + m) * 60 + s) * perSecond + us
  | _ => 0

/-- The distance from universal time that stands at the end of a time. One of less than a second is
none. -/
def offsetIn : List Char → Option Int
  | [] => none
  | sign :: cs =>
    let distance := clock (clockIn cs)
    some (if distance < perSecond then 0 else if sign = '-' then -Int.ofNat distance else distance)

/-- How many characters the date in front of a text takes: four for the year and two each for month
and day, with or without a hyphen between them. -/
def dateWidth (cs : List Char) : Nat := if cs[4]? = some '-' then 10 else 8

/-- The moment of a text. Any character may stand between a date and a time. -/
def read (kind : MomentKind) (s : String) : Moment :=
  let cs := s.toList
  let (date, cs) := match kind with
    | .date => (dateIn cs, [])
    | .dateTime => (dateIn (cs.take (dateWidth cs)), cs.drop (dateWidth cs + 1))
    | .time => ([], cs)
  let (time, zone) := cs.span fun c => c != '+' && c != '-' && c != 'Z'
  match kind with
  | .date => { kind, numbers := date }
  | .dateTime | .time => { kind, numbers := date ++ clockIn time, offset := offsetIn zone }

/-! ## Writing -/

/-- A number with at least so many digits. -/
def padded (width n : Nat) : String := String.ofList ((Nat.toDigits 10 n).leftpad width '0')

/-- A time with its seconds and, unless there are none, its microseconds. Where seconds are not
asked for, they are left out if both are zero. -/
def clockText (seconds : Bool) : List Nat → String
  | [h, m, s, us] =>
    padded 2 h ++ ":" ++ padded 2 m ++
      (if seconds || s ≠ 0 || us ≠ 0 then ":" ++ padded 2 s else "") ++
      (if us ≠ 0 then "." ++ padded 6 us else "")
  | _ => ""

/-- The hour, minute, second and microsecond of a number of microseconds. -/
def clockOf (n : Nat) : List Nat :=
  let seconds := n / perSecond
  [seconds / 3600, seconds / 60 % 60, seconds % 60, n % perSecond]

/-- A date, from its year, month and day. -/
def dateText : List Nat → String
  | [year, month, day] => padded 4 year ++ "-" ++ padded 2 month ++ "-" ++ padded 2 day
  | _ => ""

/-- A distance from universal time. -/
def offsetText : Option Int → String
  | none => ""
  | some d => (if d < 0 then "-" else "+") ++ clockText false (clockOf d.natAbs)

/-- The text of a moment. -/
def text (m : Moment) : String :=
  match m.kind with
  | .date => dateText m.numbers
  | .dateTime =>
    dateText (m.numbers.take 3) ++ " " ++ clockText true (m.numbers.drop 3) ++ offsetText m.offset
  | .time => clockText true m.numbers ++ offsetText m.offset

/-! ## Sameness -/

/-- The number of a day, counted from a day before the first year. -/
def dayNumber (year month day : Nat) : Nat :=
  let y := if month ≤ 2 then year - 1 else year
  365 * y + y / 4 - y / 100 + y / 400 + (153 * ((month + 9) % 12) + 2) / 5 + day

/-- The time since the start of the count of days, in microseconds. -/
def elapsed (m : Moment) : Nat :=
  match m.kind, m.numbers with
  | .time, ns => clock ns
  | _, year :: month :: day :: ns => dayNumber year month day * 24 * 3600 * perSecond + clock ns
  | _, _ => 0

/-- The distance from universal time as far as it counts when moments are compared: of times of day
only the whole seconds. -/
def countedOffset (m : Moment) : Option Int :=
  match m.kind with
  | .time => m.offset.map fun offset => offset.fdiv perSecond * perSecond
  | .date | .dateTime => m.offset

/-- The moments can be compared: they are of one kind, and both or neither give the distance from
universal time. -/
def isComparable (a b : Moment) : Bool :=
  a.kind == b.kind && a.offset.isSome == b.offset.isSome

/-- The time a moment is compared by, in microseconds. -/
def position (m : Moment) : Int := m.elapsed - m.countedOffset.getD 0

/-- The same point in time. -/
def same (a b : Moment) : Bool := a.isComparable b && a.position == b.position

/-- The first moment is earlier. -/
def earlier (a b : Moment) : Bool := a.position < b.position

/-- The time with every part of the distance from universal time taken into account. -/
def instant (m : Moment) : Int := m.elapsed - m.offset.getD 0

/-! ## Display -/

/-- The parts from `keep` on are left out at the end as far as they are zero. -/
def withoutZeros (keep : Nat) (ns : List Nat) : List Nat :=
  let rest := (ns.drop keep).reverse.dropWhile (· == 0)
  ns.take keep ++ rest.reverse

/-- A named part, unless it is zero. -/
def namedPart (name : String) (n : Int) : List String :=
  if n = 0 then [] else [name ++ "=" ++ (if n < 0 then "-" else "") ++ n.natAbs.repr]

/-- A distance from universal time, displayed: days may be negative, seconds and microseconds never
are. -/
def displayOffset (offset : Int) : String :=
  if offset = 0 then "datetime.timezone.utc"
  else
    let seconds := offset.fdiv perSecond
    let parts := namedPart "days" (seconds.fdiv 86400) ++
      namedPart "seconds" (seconds.fmod 86400) ++
      namedPart "microseconds" (offset.fmod perSecond)
    "datetime.timezone(datetime.timedelta(" ++ ", ".intercalate parts ++ "))"

/-- A moment, displayed by its parts. -/
def display (m : Moment) : String :=
  let (name, numbers) := match m.kind with
    | .date => ("date", m.numbers)
    | .dateTime => ("datetime", withoutZeros 5 m.numbers)
    | .time => ("time", withoutZeros 2 m.numbers)
  let zone := match m.offset with
    | some offset => ["tzinfo=" ++ displayOffset offset]
    | none => []
  "datetime." ++ name ++ "(" ++ ", ".intercalate (numbers.map Nat.repr ++ zone) ++ ")"

/-! ## Examples -/

example : (read .dateTime "2024-01-02 03:04:00").display =
    "datetime.datetime(2024, 1, 2, 3, 4)" := by decide +kernel
example : (read .time "12:00:00-00:00:00.000005").text = "12:00:00+00:00" := by decide +kernel
example : (read .dateTime "20240102T030400,5-0530").text = "2024-01-02 03:04:00.500000-05:30" := by
  decide +kernel
example : displayOffset (-19800 * 1000000) =
    "datetime.timezone(datetime.timedelta(days=-1, seconds=66600))" := by decide +kernel
example : (read .dateTime "2024-01-02 12:00:00+00:00").same
    (read .dateTime "2024-01-02 13:00:00+01:00") = true := by decide +kernel

end Moment

end SqlBuilder
