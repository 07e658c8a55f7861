import EditGuard.Text.Lines

/-!
# Rule texts and places in them

A rule text has a name, under which it is quoted in messages, and lines.  A
`Mark` is a place between two characters, counted in bytes, in characters, and
as line and column; a `Span` is a stretch of text.  `Source.snippet` quotes
one line of the text with a caret under one of its columns.
-/

namespace EditGuard.Rule

/-- A place in a text.  Lines and columns count from one, the other two
measures from zero. -/
structure Mark where
  /-- Bytes of the text before the place. -/
  offset : Nat
  line : Nat
  column : Nat
  /-- Characters of the text before the place. -/
  index : Nat
deriving Repr, DecidableEq, Inhabited

namespace Mark

/-- The place before the first character. -/
def start : Mark := ⟨0, 1, 1, 0⟩

/-- The place after the character `c` that stands at `m`. -/
def next (m : Mark) (c : Char) : Mark :=
  { offset := m.offset + c.utf8Size
    line := if c = '\n' then m.line + 1 else m.line
    column := if c = '\n' then 1 else m.column + 1
    index := m.index + 1 }

/-- The place after the characters `cs` that stand at `m`. -/
def after (m : Mark) (cs : List Char) : Mark :=
  cs.foldl next m

@[simp]
theorem after_nil (m : Mark) : m.after [] = m :=
  rfl

@[simp]
theorem after_cons (m : Mark) (c : Char) (cs : List Char) :
    m.after (c :: cs) = (m.next c).after cs :=
  rfl

/-- Passing over two stretches in turn is passing over their concatenation. -/
theorem after_append (m : Mark) (cs ds : List Char) :
    m.after (cs ++ ds) = (m.after cs).after ds := by
  simp [after]

/-- Characters are counted one by one. -/
theorem index_after (m : Mark) (cs : List Char) :
    (m.after cs).index = m.index + cs.length := by
  induction cs generalizing m with
  | nil => simp
  | cons c cs ih => simp [ih, next]; omega

end Mark

/-- A stretch of text: where it begins and the byte offset of its end. -/
structure Span where
  start : Mark
  stop : Nat
deriving Repr, DecidableEq, Inhabited

namespace Span

/-- The empty stretch at a place. -/
def empty (m : Mark) : Span := ⟨m, m.offset⟩

/-- Two stretches are the same place when they agree in byte range, line and
column. -/
def samePlace (a b : Span) : Bool :=
  a.start.offset == b.start.offset && a.stop == b.stop &&
    a.start.line == b.start.line && a.start.column == b.start.column

end Span

/-- A rule text with the name under which messages quote it. -/
structure Source where
  name : String
  text : String
deriving Repr, DecidableEq, Inhabited

namespace Source

/-- The lines of a rule text. -/
def lines (s : Source) : List String :=
  (Text.linesOf s.text.toList).map String.ofList

/-- A line by its number from zero, empty when there is none. -/
def line (s : Source) (number : Nat) : String :=
  s.lines.getD number ""

/-- Blanks that fill a text up to a width. -/
def blanks (width : Nat) : String :=
  String.ofList (List.replicate width ' ')

/-- A quotation of one line with a caret under a column, both from one. -/
def snippet (s : Source) (lineNumber column : Nat) : String :=
  if lineNumber = 0 ∨ s.lines.length < lineNumber then
    s!"\n--> {s.name}: invalid line {lineNumber} specified"
  else
    let number := toString lineNumber
    let margin := blanks (number.length + 1)
    s!"\n--> {s.name}:{lineNumber}:{column}\n" ++
      margin ++ "|\n" ++
      number ++ " | " ++ s.line (lineNumber - 1) ++ "\n" ++
      margin ++ "| " ++ blanks (column - 1) ++ "^"

/-- The quotation of the line in which a stretch begins. -/
def quote (s : Source) (span : Span) : String :=
  s.snippet span.start.line span.start.column

end Source

end EditGuard.Rule
