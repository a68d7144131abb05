/-!
Times as texts: the date and the time of day in universal time, with as many places of a second, in
groups of three, as the time has.
-/

namespace Quadrature.CommandLine

structure Day where
  year : Nat
  month : Nat
  day : Nat
deriving DecidableEq, Repr

/-- The day that lies a number of days after 1 March of the year 0. -/
def Day.ofMarch (days : Nat) : Day :=
  let era := days / 146097
  let inEra := days % 146097
  let year := (inEra - inEra / 1460 + inEra / 36524 - inEra / 146096) / 365
  let inYear := inEra - (365 * year + year / 4 - year / 100)
  let m := (5 * inYear + 2) / 153
  let day := inYear - (153 * m + 2) / 5 + 1
  let month := if m < 10 then m + 3 else m - 9
  ⟨era * 400 + year + (if month ≤ 2 then 1 else 0), month, day⟩

def Day.ofEpoch (days : Nat) : Day := Day.ofMarch (days + 719468)

def padded (width n : Nat) : String :=
  let ds := (toString n).toList
  String.ofList (List.replicate (width - ds.length) '0' ++ ds)

def secondPlaces (nanos : Nat) : String :=
  if nanos = 0 then ""
  else if nanos % 1000000 = 0 then "." ++ padded 3 (nanos / 1000000)
  else if nanos % 1000 = 0 then "." ++ padded 6 (nanos / 1000)
  else "." ++ padded 9 nanos

def timeText (seconds nanos : Nat) : String :=
  let d := Day.ofEpoch (seconds / 86400)
  let s := seconds % 86400
  padded 4 d.year ++ "-" ++ padded 2 d.month ++ "-" ++ padded 2 d.day ++ "T" ++
    padded 2 (s / 3600) ++ ":" ++ padded 2 (s / 60 % 60) ++ ":" ++ padded 2 (s % 60) ++
    secondPlaces nanos ++ "+00:00"

end Quadrature.CommandLine
