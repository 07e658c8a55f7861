/-!
# Budgets of conditions

Rules of a batch share a budget of conditions.  It is checked before a condition
is counted, so a budget that is exceeded has been consumed exactly.  A budget
that is not enforced only counts.
-/

namespace EditGuard

/-- A limit that was exceeded.  Times are in milliseconds. -/
inductive Overrun where
  | conditions (limit : Nat)
  | time (elapsed limit : Nat)
deriving Repr, DecidableEq, Inhabited

namespace Overrun

/-- The wording for people. -/
def text : Overrun → String
  | conditions limit => s!"condition limit reached (limit={limit})"
  | time elapsed limit =>
      s!"execution exceeded time limit (elapsed={elapsed}ms, limit={limit}ms)"

/-- Milliseconds in seconds, if there is a whole one, without trailing zeros. -/
def spanText (ms : Nat) : String :=
  if ms = 0 then "0ns"
  else if ms < 1000 then s!"{ms}ms"
  else
    let digits := (toString (1000 + ms % 1000)).toList.tail
    let fraction := (digits.reverse.dropWhile (· == '0')).reverse
    String.ofList
      ((toString (ms / 1000)).toList ++ (if fraction.isEmpty then [] else '.' :: fraction) ++ ['s'])

/-- The wording for records, with the names of all parts. -/
def record : Overrun → String
  | conditions limit => "ConditionLimitReached \x7b limit: " ++ toString limit ++ " \x7d"
  | time elapsed limit =>
      "TimeLimitExceeded \x7b elapsed: " ++ spanText elapsed ++ ", limit: " ++ spanText limit ++
        " \x7d"

end Overrun

/-- How many conditions may be consumed and how many have been. -/
structure Budget where
  limit : Nat
  consumed : Nat
  enforced : Bool
deriving Repr, DecidableEq, Inhabited

namespace Budget

/-- The largest count. -/
def countLimit : Nat := 0xffffffffffffffff

/-- A budget of at most a number of conditions. -/
def limited (limit : Nat) : Budget :=
  ⟨limit, 0, true⟩

/-- A budget that only counts. -/
def unlimited : Budget :=
  ⟨countLimit, 0, false⟩

/-- The count after some more conditions. -/
def after (b : Budget) (n : Nat) : Nat :=
  min (b.consumed + n) countLimit

/-- Whether some more conditions exceed the budget. -/
def exceededBy (b : Budget) (n : Nat) : Bool :=
  b.enforced && decide (b.limit < b.after n)

/-- Count some more conditions, or consume the whole budget if they exceed it. -/
def raise (b : Budget) (n : Nat) : Except Overrun Unit × Budget :=
  if b.exceededBy n then (.error (.conditions b.limit), { b with consumed := b.limit })
  else (.ok (), { b with consumed := b.after n })

/-- Whether nothing is left of an enforced budget. -/
def isExhausted (b : Budget) : Bool :=
  b.enforced && decide (b.limit ≤ b.consumed)

end Budget

end EditGuard
