import EditGuard.Fault
import EditGuard.Text.Blank

/-!
# Durations

How long a block lasts: without end, or a number of seconds that is written as an
amount and a unit.
-/

namespace EditGuard.Duration

/-- The words for a duration without end. -/
def endless : List String :=
  ["", "infinite", "indefinite", "infinity", "never"]

/-- The seconds of a unit, whose name has no plural ending. -/
def unitSeconds? (unit : String) : Option Nat :=
  match unit with
  | "second" | "sec" => some 1
  | "minute" | "min" => some 60
  | "hour" => some 3600
  | "day" => some 86400
  | "week" => some (7 * 86400)
  | "month" => some (30 * 86400)
  | "year" => some (365 * 86400)
  | _ => none

/-- Cut at the first blank.  Seconds are meant where no unit is given. -/
def amountAndUnit (cs : List Char) : List Char × List Char :=
  match cs.span fun c => !Text.isBlank c with
  | (amount, []) => (amount, "seconds".toList)
  | (amount, _ :: rest) => (amount, Text.trim rest)

/-- The most seconds that a duration has. -/
def secondsLimit : Nat := 0xffffffffffffffff

/-- Read a duration in seconds; none is without end. -/
def parse (text : String) : Except Fault (Option Nat) :=
  let cs := (Text.trim text.toList).map Char.toLower
  if endless.contains (String.ofList cs) then .ok none
  else
    let (amount, unit) := amountAndUnit cs
    match Text.readNatural (String.ofList amount) with
    | .error f => .error (.integer f)
    | .ok n =>
        match unitSeconds? (String.ofList (unit.reverse.dropWhile (· == 's')).reverse) with
        | none => .error (.other s!"unknown duration unit \x60{String.ofList unit}\x60")
        | some seconds => .ok (some (min (n * seconds) secondsLimit))

end EditGuard.Duration
