import EditGuard.Pattern.Node

/-!
# Programs of patterns

A pattern as a list of small steps that refer to each other by number.  A step
reads a character, tests its place, keeps its place, or goes on in one of two
ways, of which the first is preferred.  The program of a part ends in a jump to
the step that follows it, so programs are built from their ends.
-/

namespace EditGuard.Pattern

/-- A step of a program. -/
inductive Step where
  /-- The whole pattern has matched. -/
  | accept
  /-- Read a character of a set. -/
  | read (s : CharSet) (next : Nat)
  /-- Go on if a condition holds. -/
  | test (l : Look) (next : Nat)
  /-- Keep the place in a slot. -/
  | keep (slot : Nat) (next : Nat)
  /-- Go on in the first way, or else in the second. -/
  | fork (first second : Nat)
deriving Repr, Inhabited

/-- A pattern as steps, and the first of them. -/
structure Program where
  steps : Array Step
  start : Nat
deriving Repr, Inhabited

namespace Program

/-- Add a step in front. -/
def add (steps : Array Step) (s : Step) : Program :=
  let start := steps.size
  ⟨steps.push s, start⟩

/-- The way into a repetition, or past it. -/
def choice (greedy : Bool) (inside past : Nat) : Step :=
  if greedy then .fork inside past else .fork past inside

/-- The same part a number of times, one in front of the other. -/
def copies (build : Program → Program) : Nat → Program → Program
  | 0, p => p
  | n + 1, p => copies build n (build p)

/-- A part any number of times but at least once.  The step that goes back comes
first, so that the part can refer to it. -/
def loop (greedy : Bool) (build : Program → Program) : Program → Program
  | ⟨steps, past⟩ =>
      let back := steps.size
      match build (add steps .accept) with
      | ⟨steps, start⟩ => ⟨steps.setIfInBounds back (choice greedy start past), start⟩

/-- A part or nothing, with the step that follows if there is nothing. -/
def optional (greedy : Bool) (past : Nat) (build : Program → Program) (p : Program) : Program :=
  match build p with
  | ⟨steps, start⟩ => add steps (choice greedy start past)

/-- The steps of a node in front of a program. -/
def ofNode : Node → Program → Program
  | .empty, p => p
  | .set s, ⟨steps, past⟩ => add steps (.read s past)
  | .look l, ⟨steps, past⟩ => add steps (.test l past)
  | .group index body, ⟨steps, past⟩ =>
      match ofNode body (add steps (.keep (2 * index + 1) past)) with
      | ⟨steps, start⟩ => add steps (.keep (2 * index) start)
  | .concat a b, p => ofNode a (ofNode b p)
  | .either a b, ⟨steps, past⟩ =>
      match ofNode b ⟨steps, past⟩ with
      | ⟨steps, second⟩ =>
          match ofNode a ⟨steps, past⟩ with
          | ⟨steps, first⟩ => add steps (.fork first second)
  | .repetition least none greedy body, ⟨steps, past⟩ =>
      let once := loop greedy (ofNode body)
      if least = 0 then optional greedy past once ⟨steps, past⟩
      else copies (ofNode body) (least - 1) (once ⟨steps, past⟩)
  | .repetition least (some most) greedy body, ⟨steps, past⟩ =>
      copies (ofNode body) least
        (copies (optional greedy past (ofNode body)) (most - least) ⟨steps, past⟩)

end Program

/-- The program of a whole pattern, which keeps the place of its match as group
zero. -/
def Node.program (n : Node) : Program :=
  Program.ofNode (.group 0 n) (Program.add #[] .accept)

end EditGuard.Pattern
