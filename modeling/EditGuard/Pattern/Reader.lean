import EditGuard.Pattern.Bracket
import EditGuard.Pattern.Size
import EditGuard.Text.Letter

/-!
# Reading patterns

The syntax of regular expressions: literals and escapes, classes in brackets
with set operations, groups, alternatives, repetitions, conditions, and flags
that hold up to the end of their group.  There is neither look-around nor a
reference back to a group.

The reader keeps the enclosing groups on a stack and takes one item off the
text at a time, until nothing is left.
-/

namespace EditGuard.Pattern

namespace Reader

/-! ## Groups and repetitions -/

/-- A part of a pattern, how deeply it nests, and whether it can be repeated. -/
structure Piece where
  node : Node
  depth : Nat
  repeatable : Bool
deriving Inhabited

/-- Parts one after the other. -/
def sequence (pieces : List Piece) : Piece :=
  match pieces with
  | [] => ⟨.empty, 0, true⟩
  | [p] => p
  | p :: ps =>
      ⟨ps.foldl (fun node q => .concat node q.node) p.node,
        ps.foldl (fun depth q => max depth q.depth) p.depth + 1, true⟩

/-- Parts of which one is chosen, the first ones preferred. -/
def alternatives (pieces : List Piece) : Piece :=
  match pieces.reverse with
  | [] => ⟨.empty, 0, true⟩
  | [p] => p
  | p :: ps =>
      ⟨ps.foldl (fun node q => .either q.node node) p.node,
        ps.foldl (fun depth q => max depth q.depth) p.depth + 1, true⟩

/-- The branches of a group that are complete and the parts of the current one,
the latest first. -/
structure Level where
  branches : List Piece
  parts : List Piece
deriving Inhabited

namespace Level

def start : Level := ⟨[], []⟩

def push (l : Level) (p : Piece) : Level :=
  { l with parts := p :: l.parts }

/-- End the current branch. -/
def branch (l : Level) : Level :=
  ⟨sequence l.parts.reverse :: l.branches, []⟩

/-- The whole of a level. -/
def finish (l : Level) : Piece :=
  alternatives (l.branch.branches.reverse)

end Level

/-- An enclosing group: its level, the number under which the inner group is
kept, if it is, and the flags to go back to. -/
structure Frame where
  level : Level
  index : Option Nat
  flags : Flags
deriving Inhabited

/-- Where the reading of a pattern stands. -/
structure State where
  level : Level
  frames : List Frame
  flags : Flags
  groups : Nat
  names : List (List Char)
deriving Inhabited

/-- The flags that a list of letters sets, and after a hyphen clears.  No letter
and no hyphen may come twice, and a hyphen needs a letter after it. -/
def applyFlags (flags : Flags) (negated : Bool) (seen : List Char) :
    List Char → Reading Flags
  | [] => if seen.head? = some '-' then .error .badFlags else .ok flags
  | c :: cs => do
      if seen.contains c then throw .badFlags
      match c with
      | '-' => applyFlags flags true (c :: seen) cs
      | 'i' => applyFlags { flags with insensitive := !negated } negated (c :: seen) cs
      | 'm' => applyFlags { flags with multiline := !negated } negated (c :: seen) cs
      | 's' => applyFlags { flags with dotMatchesNewline := !negated } negated (c :: seen) cs
      | 'U' => applyFlags { flags with swapGreed := !negated } negated (c :: seen) cs
      | 'u' => applyFlags { flags with unicode := !negated } negated (c :: seen) cs
      | 'R' => applyFlags { flags with crlf := !negated } negated (c :: seen) cs
      | 'x' => applyFlags { flags with ignoreSpace := !negated } negated (c :: seen) cs
      | _ => throw .badFlags

/-- Whether characters may be the name of a group. -/
def isGroupName : List Char → Bool
  | [] => false
  | c :: cs =>
      (c == '_' || Text.isAlphabetic c) &&
        cs.all fun d =>
          d == '_' || d == '.' || d == '[' || d == ']' || Text.isAlphanumeric d

/-- Begin a group whose match is kept. -/
def openKept (s : State) : State :=
  { s with
    level := .start
    frames := ⟨s.level, some (s.groups + 1), s.flags⟩ :: s.frames
    groups := s.groups + 1 }

/-- Begin a named group, after the opening angle bracket. -/
def openNamed (s : State) (cs : List Char) : Reading (State × List Char) :=
  let (name, rest) := cs.span (· != '>')
  match rest with
  | [] => .error .badGroupName
  | _ :: rest =>
      if !isGroupName name then .error .badGroupName
      else if s.names.contains name then .error .duplicateGroupName
      else .ok ({ openKept s with names := name :: s.names }, rest)

/-- What follows an opening parenthesis: a group, or flags for the rest of the
enclosing one. -/
def openGroup (s : State) (cs : List Char) : Reading (State × List Char) :=
  match cs with
  | '?' :: '=' :: _ | '?' :: '!' :: _ | '?' :: '<' :: '=' :: _ | '?' :: '<' :: '!' :: _ =>
      .error .lookAround
  | '?' :: 'P' :: '<' :: rest | '?' :: '<' :: rest => openNamed s rest
  | '?' :: rest =>
      let (letters, rest) := rest.span fun c => c != ':' && c != ')'
      match rest with
      | [] => .error .unclosedGroup
      | ')' :: rest => do
          if letters.isEmpty then throw .nothingToRepeat
          let flags ← applyFlags s.flags false [] letters
          return ({ s with flags, level := s.level.push ⟨.empty, 0, false⟩ }, rest)
      | _ :: rest => do
          let flags ← applyFlags s.flags false [] letters
          return ({ s with
            flags, level := .start, frames := ⟨s.level, none, s.flags⟩ :: s.frames }, rest)
  | _ => .ok (openKept s, cs)

/-- End the innermost group. -/
def closeGroup (s : State) : Reading State :=
  match s.frames with
  | [] => .error .unopenedGroup
  | frame :: frames =>
      let body := s.level.finish
      let node :=
        match frame.index with
        | some index => Node.group index body.node
        | none => body.node
      .ok { s with
        level := frame.level.push ⟨node, body.depth + 1, true⟩, frames, flags := frame.flags }

/-- Repeat the latest part.  A question mark after the operator, if the rest
begins with one, turns its preference around. -/
def repeatLast (s : State) (least : Nat) (most : Option Nat) (rest : List Char) :
    Reading (State × List Char) :=
  let (lazyMark, rest) :=
    match rest with
    | '?' :: rest => (true, rest)
    | _ => (false, rest)
  match s.level.parts with
  | [] => .error .nothingToRepeat
  | p :: ps =>
      if p.repeatable then
        let node := Node.repeated least most (lazyMark == s.flags.swapGreed) p.node
        .ok ({ s with level := { s.level with parts := ⟨node, p.depth + 1, true⟩ :: ps } }, rest)
      else .error .nothingToRepeat

/-- A repetition with counts, after the opening brace. -/
def counted (s : State) (cs : List Char) : Reading (State × List Char) := do
  if !(s.level.parts.head?.map Piece.repeatable).getD false then throw .nothingToRepeat
  let flags := s.flags
  let (least, rest) ← decimal? flags (skip flags cs)
  let (range, rest) ←
    (match rest with
    | ',' :: rest =>
        match skip flags rest with
        | '\x7d' :: rest => .ok ((least, none), '\x7d' :: rest)
        | rest => do
            if least.isNone then throw .badRepetition
            let (most, rest) ← decimal? flags rest
            if most.isNone then throw .badRepetition
            return ((least, most), rest)
    | rest => .ok ((least, least), rest) : Reading ((Option Nat × Option Nat) × List Char))
  match range.1, rest with
  | some least, '\x7d' :: rest => do
      if (range.2.map fun most => decide (most < least)).getD false then throw .badRepetition
      repeatLast s least range.2 (skip flags rest)
  | _, _ => throw .badRepetition

/-! ## Patterns -/

/-- The set of one character under the flags. -/
def literalSet (flags : Flags) (c : Char) : CharSet :=
  let s := CharSet.single c.toNat
  if !flags.insensitive then s
  else if flags.unicode then
    if (caseVariants c.toNat).length ≤ 1 then s else .folded s
  else if otherAsciiCase c.toNat = c.toNat then s
  else .asciiFolded s

/-- The set of the characters that a dot matches. -/
def dotSet (flags : Flags) : Reading CharSet :=
  if !flags.unicode then .error .notUnicode
  else if flags.dotMatchesNewline then .ok .any
  else if flags.crlf then .ok (.compl (.runs [⟨10, 10, 1⟩, ⟨13, 13, 1⟩]))
  else .ok (.compl (.single 10))

/-- An atom as a part of a pattern. -/
def atomPiece (flags : Flags) : Atom → Reading Piece
  | .literal c byteCode =>
      if !flags.unicode && byteCode && 0x80 ≤ c.toNat then .error .notUnicode
      else .ok ⟨.set (literalSet flags c), 0, true⟩
  | .set s => .ok ⟨.set s, 0, true⟩
  | .look l => .ok ⟨.look l, 0, true⟩
  | .dot => (dotSet flags).map fun s => ⟨.set s, 0, true⟩

/-- The condition of a line mark. -/
def lineLook (flags : Flags) (atStart : Bool) : Look :=
  if !flags.multiline then if atStart then .start else .stop
  else if flags.crlf then if atStart then .crlfLineStart else .crlfLineStop
  else if atStart then .lineStart
  else .lineStop

/-- Take one item of a pattern off the text. -/
def step (s : State) (c : Char) (rest : List Char) : Reading (State × List Char) :=
  let push (atom : Atom) (rest : List Char) : Reading (State × List Char) := do
    return ({ s with level := s.level.push (← atomPiece s.flags atom) }, rest)
  match c with
  | '(' => openGroup s (skip s.flags rest)
  | ')' => (closeGroup s).map (·, rest)
  | '|' => .ok ({ s with level := s.level.branch }, rest)
  | '[' => do
      let (operand, rest) ← bracketed s.flags rest
      return ({ s with level := s.level.push ⟨.set operand.set, operand.depth, true⟩ }, rest)
  | '?' => repeatLast s 0 (some 1) rest
  | '*' => repeatLast s 0 none rest
  | '+' => repeatLast s 1 none rest
  | '\x7b' => counted s rest
  | '\\' => do
      let (atom, rest) ← escape s.flags rest
      push atom rest
  | '.' => push .dot rest
  | '^' => push (.look (lineLook s.flags true)) rest
  | '$' => push (.look (lineLook s.flags false)) rest
  | c => push (.literal c false) rest

/-- Read a pattern to its end. -/
def readAll (s : State) (cs : List Char) : Reading State :=
  match skip s.flags cs with
  | [] => .ok s
  | c :: rest =>
      match step s c rest with
      | .error e => .error e
      | .ok (next, rest) =>
          if _shorter : rest.length < cs.length then readAll next rest else .ok next
termination_by cs.length

/-- The deepest nesting of a pattern. -/
def depthLimit : Nat := 250

/-- The flags at the beginning of a pattern. -/
def initialFlags (insensitive : Bool) : Flags :=
  { insensitive
    multiline := false
    dotMatchesNewline := false
    swapGreed := false
    unicode := true
    crlf := false
    ignoreSpace := false }

/-- The largest size of a compiled pattern. -/
def sizeLimit : Nat := 10485760

end Reader

/-- Read a pattern. -/
def Node.parse (insensitive : Bool) (text : String) : Except PatternError Node := do
  let start : Reader.State := ⟨.start, [], Reader.initialFlags insensitive, 0, []⟩
  let s ← Reader.readAll start text.toList
  if !s.frames.isEmpty then throw .unclosedGroup
  let whole := s.level.finish
  if Reader.depthLimit < whole.depth then throw .nestedTooDeep
  if Reader.sizeLimit < whole.node.size then throw .tooLarge
  return whole.node

end EditGuard.Pattern
