import EditGuard.Dictionary

/-!
# Tags

The tags that an action is given while it is judged, each of them once and in
order.
-/

namespace EditGuard

/-- A set of tags. -/
abbrev Tags := Dictionary String Unit

namespace Tags

def add (ts : Tags) (tag : String) : Tags :=
  ts.insert tag ()

def addAll (ts : Tags) (tags : List String) : Tags :=
  tags.foldl add ts

end Tags

end EditGuard
