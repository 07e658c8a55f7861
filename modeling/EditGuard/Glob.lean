import EditGuard.Pattern.Search

/-!
# Globs

A glob is a pattern for a whole text with the wildcards `?` and `*`, classes in
brackets, and alternatives in braces.  It is matched against the bytes of the
text, so `?` and a class take one byte each, and a class has all the bytes of its
characters as members.  Between slashes `**` stands for any number of
directories.
-/

namespace EditGuard.Glob

open Pattern

/-! ## Parts -/

/-- A part of a glob.  The forms of `**` are kept apart while neighbours are
read, since they absorb each other. -/
inductive Part where
  /-- Any directories in front of a name. -/
  | before
  /-- Everything below a directory. -/
  | below
  | node (n : Node)
deriving Repr, Inhabited

def anyByte : CharSet :=
  .range 0 0xFF

/-- The bytes of a character, the first one first. -/
def bytesOf (c : Char) : List Nat :=
  (String.singleton c).toUTF8.toList.map UInt8.toNat

/-- The bytes of a text, each as the character of that number. -/
def byteText (text : String) : List Char :=
  text.toUTF8.toList.map fun b => Char.ofNat b.toNat

def bytesNode (bytes : List Nat) : Node :=
  bytes.foldr (fun b n => .concat (.set (.single b)) n) .empty

/-- Any bytes. -/
def anything : Node :=
  .repetition 0 none true (.set anyByte)

def slash : Node :=
  .set (.single '/'.toNat)

/-- A slash, any bytes and a slash. -/
def slashes : Node :=
  .concat slash (.concat anything slash)

namespace Part

def literal (c : Char) : Part :=
  .node (bytesNode (bytesOf c))

/-- What a part matches. -/
def toNode : Part → Node
  | before => .either (.repetition 0 (some 1) true slash) (.concat anything slash)
  | below => .concat slash anything
  | node n => n

end Part

/-- The parts of a branch, the latest first, as one node.  It is the empty node if
and only if no part adds anything. -/
def nodeOf (parts : List Part) : Node :=
  parts.foldl
    (fun rest part =>
      match part.toNode, rest with
      | .empty, rest => rest
      | node, .empty => node
      | node, rest => .concat node rest)
    .empty

/-- The choice between branches, of which the empty ones do not count. -/
def choice (branches : List Node) : Node :=
  match (branches.filter (· != .empty)).reverse with
  | [] => .empty
  | last :: others => others.foldl (fun node branch => .either branch node) last

/-! ## Classes -/

/-- The members of a class as ranges of characters. -/
abbrev Ranges := List (Char × Char)

/-- The set of bytes of a class.  Of a range between characters of several bytes
only the two bytes where they meet bound a range. -/
def classSet (negated : Bool) (ranges : Ranges) : CharSet :=
  let ofRange (r : Char × Char) : List Unicode.Run :=
    let first := bytesOf r.1
    let last := bytesOf r.2
    if r.1 = r.2 then first.map fun b => ⟨b, b, 1⟩
    else
      first.dropLast.map (fun b => ⟨b, b, 1⟩) ++
        ⟨first.getLastD 0, last.headD 0, 1⟩ :: last.tail.map fun b => ⟨b, b, 1⟩
  let members := CharSet.runs (ranges.flatMap ofRange)
  if negated then .diff anyByte members else members

/-- Read the members of a class up to its bracket.  The latest range comes first;
`inRange` tells that a hyphen waits for the end of that range.  A range that ends
before it starts is refused. -/
def classMembers? (isFirst inRange : Bool) (ranges : Ranges) :
    List Char → Option (Ranges × List Char)
  | [] => none
  | c :: cs =>
      if c == ']' && !isFirst then
        some ((if inRange then ('-', '-') :: ranges else ranges).reverse, cs)
      else if c == '-' && !isFirst && !inRange then
        classMembers? false true ranges cs
      else
        match inRange, ranges with
        | true, (first, _) :: others =>
            if c < first then none else classMembers? false false ((first, c) :: others) cs
        | _, _ => classMembers? false false ((c, c) :: ranges) cs

/-- Read a class, after its opening bracket. -/
def class? (cs : List Char) : Option (CharSet × List Char) :=
  match cs with
  | '!' :: cs | '^' :: cs => (classMembers? true false [] cs).map fun r => (classSet true r.1, r.2)
  | cs => (classMembers? true false [] cs).map fun r => (classSet false r.1, r.2)

/-! ## Reading -/

/-- The branches of a choice that are complete and the parts of the current one,
the latest first. -/
structure Level where
  branches : List Node
  parts : List Part
deriving Inhabited

/-- Where the reading of a glob stands: the current level, those around it, and
the character read last. -/
structure State where
  level : Level
  outer : List Level
  previous : Option Char
deriving Inhabited

namespace State

def start : State :=
  ⟨⟨[], []⟩, [], none⟩

def push (s : State) (p : Part) : State :=
  { s with level := { s.level with parts := p :: s.level.parts } }

/-- Two wildcards without a meaning of their own. -/
def pushStars (s : State) : State :=
  (s.push (.node anything)).push (.node anything)

/-- Whether a branch can begin or end here inside a choice. -/
def isInside (s : State) : Bool :=
  !s.outer.isEmpty

/-- Put a form of `**` in place of the slash before it, unless there is such a form
already. -/
def absorb (s : State) (p : Part) : State :=
  match s.level.parts with
  | .before :: _ | .below :: _ => s
  | parts => { s with level := { s.level with parts := p :: parts.tail } }

end State

/-- Take the second star and what belongs to it, given the character before the
first one. -/
def twoStars (s : State) (previous : Option Char) (cs : List Char) : State × List Char :=
  if s.level.parts.isEmpty then
    match cs with
    | [] => (s.push .before, [])
    | '/' :: rest => ({ s.push .before with previous := some '/' }, rest)
    | _ => (s.pushStars, cs)
  else if previous != some '/' &&
      !(s.isInside && (previous == some ',' || previous == some '\x7b')) then
    (s.pushStars, cs)
  else
    match cs with
    | [] => (s.absorb .below, [])
    | '/' :: rest =>
        ({ s.absorb (.node (.either slash slashes)) with previous := some '/' }, rest)
    | c :: _ =>
        if s.isInside && (c == ',' || c == '\x7d') then (s.absorb .below, cs)
        else (s.pushStars, cs)

/-- Take one item of a glob off the text. -/
def step? (s : State) (c : Char) (rest : List Char) : Option (State × List Char) :=
  let after (s : State) (c : Char) : State := { s with previous := some c }
  match c with
  | '?' => some (after (s.push (.node (.set anyByte))) c, rest)
  | '*' =>
      match rest with
      | '*' :: rest => some (twoStars (after s c) s.previous rest)
      | _ => some (after (s.push (.node anything)) c, rest)
  | '[' => (class? rest).map fun r => (after (s.push (.node (.set r.1))) ']', r.2)
  | '\x7b' => some (after { s with level := ⟨[], []⟩, outer := s.level :: s.outer } c, rest)
  | '\x7d' =>
      match s.outer with
      | [] => none
      | level :: outer =>
          let branches := (nodeOf s.level.parts :: s.level.branches).reverse
          some (after (State.push { s with level, outer } (.node (choice branches))) c, rest)
  | ',' =>
      if s.isInside then
        some (after { s with level := ⟨nodeOf s.level.parts :: s.level.branches, []⟩ } c, rest)
      else some (after (s.push (.literal ',')) c, rest)
  | '\\' =>
      match rest with
      | [] => none
      | d :: rest => some (after (s.push (.literal d)) d, rest)
  | c => some (after (s.push (.literal c)) c, rest)

/-- What has been read, if all choices are complete.  A glob of nothing but
directories matches everything. -/
def finish? (s : State) : Option Node :=
  if s.isInside then none
  else
    match s.level.parts with
    | [.before] => some anything
    | parts => some (nodeOf parts)

/-- Read a glob to its end. -/
def readAll (s : State) : List Char → Option Node
  | [] => finish? s
  | c :: cs =>
      match step? s c cs with
      | none => none
      | some (next, rest) =>
          if _shorter : rest.length ≤ cs.length then readAll next rest else none
termination_by cs => cs.length

/-- What a glob matches, unless it is malformed. -/
def parse? (glob : String) : Option Node :=
  readAll .start glob.toList

/-- Whether a glob matches the whole of a text.  A malformed one matches nothing. -/
def isMatch (glob text : String) : Bool :=
  match parse? glob with
  | none => false
  | some node =>
      let whole := Node.concat (.look .start) (.concat node (.look .stop))
      (whole.program.search ⟨0, none, byteText text⟩).isSome

end EditGuard.Glob
