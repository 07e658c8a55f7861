import EditGuard.Pattern.Program

/-!
# Searching with a program

All ways through a program are followed at the same time, one character of the
text after the other.  The ways are in order of preference, and of two ways that
arrive at the same step only the preferred one goes on.  The first way of those
that begin leftmost decides the match.
-/

namespace EditGuard.Pattern

/-- A place in a text: its index in characters, the character before it, and the
text after it. -/
structure Place where
  index : Nat
  before : Option Char
  rest : List Char
deriving Repr, Inhabited

namespace Place

def ofText (text : String) : Place :=
  ⟨0, none, text.toList⟩

/-- The place after the next character. -/
def next? (p : Place) : Option Place :=
  match p.rest with
  | [] => none
  | c :: rest => some ⟨p.index + 1, some c, rest⟩

/-- A place a number of characters further on. -/
def advance (p : Place) : Nat → Place
  | 0 => p
  | n + 1 =>
      match p.next? with
      | none => p
      | some q => q.advance n

end Place

/-- The places that a way through a program has kept: two for each group. -/
abbrev Slots := List (Nat × Nat)

/-- A way that is about to read a character. -/
structure Thread where
  step : Nat
  slots : Slots
deriving Repr, Inhabited

/-- The ways that have been followed at a place. -/
structure Front where
  /-- The steps at which some way has arrived. -/
  visited : Array Bool
  /-- The ways that go on to read, the latest first. -/
  waiting : List Thread
  /-- What the way that has matched kept.  Later ways are of no interest. -/
  found : Option Slots
deriving Inhabited

namespace Program

/-- Keep a place in a slot. -/
def keepSlot (slots : Slots) (slot index : Nat) : Slots :=
  (slot, index) :: slots.filter fun kept => kept.1 != slot

/-- Follow a way as far as it goes without reading.  It arrives at a new step each
time, so the number of steps bounds it. -/
def follow (p : Program) (place : Place) : Nat → Nat → Slots → Front → Front
  | 0, _, _, front => front
  | bound + 1, i, slots, front =>
      if front.found.isSome || (front.visited[i]?).getD true then front
      else
        let front := { front with visited := front.visited.setIfInBounds i true }
        match p.steps[i]? with
        | none => front
        | some .accept => { front with found := some slots }
        | some (.read _ _) => { front with waiting := ⟨i, slots⟩ :: front.waiting }
        | some (.test l next) =>
            if l.holds place.before place.rest.head? then
              p.follow place bound next slots front
            else front
        | some (.keep slot next) =>
            p.follow place bound next (keepSlot slots slot place.index) front
        | some (.fork first second) =>
            p.follow place bound second slots (p.follow place bound first slots front)

/-- The ways at a place: those that have just read a character, in order, and a
new one if no match has been found. -/
def front (p : Program) (place : Place) (arrivals : List Thread) (fresh : Bool) : Front :=
  let bound := p.steps.size + 1
  let none := ⟨Array.replicate p.steps.size false, [], none⟩
  let front := arrivals.foldl (fun front t => p.follow place bound t.step t.slots front) none
  if fresh then p.follow place bound p.start [] front else front

/-- A way after a character, if its step reads that character. -/
def advance? (p : Program) (c : Char) (t : Thread) : Option Thread :=
  match p.steps[t.step]? with
  | some (.read s next) => if s.contains c.toNat then some ⟨next, t.slots⟩ else none
  | _ => none

/-- Search on through the text with the ways that have arrived, and with what the
best way so far has kept. -/
def searchOn (p : Program) (index : Nat) (before : Option Char) (arrivals : List Thread)
    (best : Option Slots) : List Char → Option Slots
  | [] => (p.front ⟨index, before, []⟩ arrivals best.isNone).found.or best
  | c :: rest =>
      let front := p.front ⟨index, before, c :: rest⟩ arrivals best.isNone
      let best := front.found.or best
      match best, front.waiting with
      | some slots, [] => some slots
      | _, waiting => p.searchOn (index + 1) (some c) (waiting.reverse.filterMap (p.advance? c)) best rest

/-- The leftmost match at or after a place, as the slots of its groups. -/
def search (p : Program) (place : Place) : Option Slots :=
  p.searchOn place.index place.before [] none place.rest

end Program

end EditGuard.Pattern
