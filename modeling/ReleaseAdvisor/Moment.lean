/-!
Dates, times of day and both together, as configuration files may hold them.
-/

namespace ReleaseAdvisor

structure Date where
  year : Nat
  month : Nat
  day : Nat
  deriving DecidableEq, Repr

structure TimeOfDay where
  hour : Nat
  minute : Nat
  second : Nat
  microsecond : Nat
  deriving DecidableEq, Repr

inductive Offset where
  | universal
  | shifted (negative : Bool) (hours minutes : Nat)
  deriving DecidableEq, Repr

inductive Moment where
  | date (date : Date)
  | time (time : TimeOfDay)
  | both (date : Date) (time : TimeOfDay) (offset : Option Offset)
  deriving DecidableEq, Repr

namespace Moment

def padded (width n : Nat) : String :=
  let ds := toString n
  String.ofList (List.replicate (width - ds.length) '0') ++ ds

def dateText (d : Date) : String :=
  padded 4 d.year ++ "-" ++ padded 2 d.month ++ "-" ++ padded 2 d.day

def timeText (t : TimeOfDay) : String :=
  padded 2 t.hour ++ ":" ++ padded 2 t.minute ++ ":" ++ padded 2 t.second ++
    (if t.microsecond = 0 then "" else "." ++ padded 6 t.microsecond)

def offsetText : Offset → String
  | .universal => "+00:00"
  | .shifted negative hours minutes =>
    (if negative && (hours, minutes) ≠ (0, 0) then "-" else "+") ++ padded 2 hours ++ ":" ++
      padded 2 minutes

def textWith (separator : String) : Moment → String
  | .date d => dateText d
  | .time t => timeText t
  | .both d t offset =>
    dateText d ++ separator ++ timeText t ++ (offset.map offsetText).getD ""

def kindName : Moment → String
  | .date _ => "date"
  | .time _ => "time"
  | .both _ _ _ => "datetime"

/-- The parts of a time of day that a constructor shows: seconds only if there are some. -/
def timeParts (t : TimeOfDay) : List Nat :=
  if t.microsecond ≠ 0 then [t.hour, t.minute, t.second, t.microsecond]
  else if t.second ≠ 0 then [t.hour, t.minute, t.second]
  else [t.hour, t.minute]

def lengthText (negative : Bool) (seconds : Nat) : String :=
  if seconds = 0 then "datetime.timedelta(0)"
  else if negative then
    "datetime.timedelta(days=-1, seconds=" ++ toString (86400 - seconds) ++ ")"
  else "datetime.timedelta(seconds=" ++ toString seconds ++ ")"

def offsetCall : Offset → String
  | .universal => "datetime.timezone(datetime.timedelta(0), 'UTC')"
  | .shifted negative hours minutes =>
    "datetime.timezone(" ++ lengthText negative (hours * 3600 + minutes * 60) ++ ", '" ++
      (if negative then "-" else "+") ++ padded 2 hours ++ ":" ++ padded 2 minutes ++ "')"

def callText : Moment → String
  | .date d => "datetime.date(" ++ ", ".intercalate ([d.year, d.month, d.day].map toString) ++ ")"
  | .time t => "datetime.time(" ++ ", ".intercalate ((timeParts t).map toString) ++ ")"
  | .both d t offset =>
    "datetime.datetime(" ++
      ", ".intercalate (([d.year, d.month, d.day] ++ timeParts t).map toString) ++
      (match offset with
        | none => ""
        | some offset => ", tzinfo=" ++ offsetCall offset) ++ ")"

end Moment
end ReleaseAdvisor
