import EditGuard.Address.Range
import EditGuard.Consequence.Duration
import EditGuard.Consequence.Kind
import EditGuard.Consequence.Platform
import EditGuard.Digest
import EditGuard.Message
import EditGuard.Settings
import EditGuard.Text.Lines
import EditGuard.Text.Quoted

/-!
# Consequences

What happens when a filter matches.  A consequence is built from an action of the
filter and its parameters; some parameters are refused.
-/

namespace EditGuard

/-! ## Throttles -/

/-- A limit on the hits of a filter within a period, for each group of users,
pages or addresses.  A group is written as parts between commas. -/
structure Throttle where
  id : String
  count : Int
  seconds : Nat
  groups : List String
deriving Repr, DecidableEq, Inhabited

namespace Throttle

/-- What hits may be counted by. -/
inductive Part where
  | address
  | user
  | range
  | creationDate
  | editCount
  | site
  | page
deriving Repr, DecidableEq, Inhabited

/-- The parts by their names. -/
def Part.names : List (String × Part) :=
  [("ip", .address), ("user", .user), ("range", .range), ("creationdate", .creationDate),
    ("editcount", .editCount), ("site", .site), ("page", .page)]

/-- The part that a piece of a group names. -/
def part? (piece : List Char) : Option Part :=
  Part.names.lookup (String.ofList (Text.trim piece))

/-- The first piece of a group that names no part. -/
def unknownPart? (group : String) : Option String :=
  ((Text.pieces ',' group.toList).find? fun piece => (part? piece).isNone).map String.ofList

/-- Leading bits of the networks by which hits are counted. -/
def rangeSize : RangeSize :=
  ⟨16, 64⟩

/-- By what a part tells actions apart. -/
def identifier (settings : Settings) (a : Action) : Part → String
  | .address => (a.address.map Address.toText).getD a.userName
  | .user => toString a.userId
  | .range => (a.address.map fun ip => ip.networkText rangeSize.v4 rangeSize.v6).getD ""
  | .creationDate => a.registration.getD ""
  | .editCount => toString a.editCount
  | .site => settings.wikiName
  | .page => a.page

/-- The key under which the hits of a group are counted. -/
def key (t : Throttle) (settings : Settings) (s : Subject) (group : String) : String :=
  let identifiers := (Text.pieces ',' group.toList).map fun piece =>
    identifier settings s.action ((part? piece).getD .site)
  let joined := ",".intercalate identifiers
  s!"abusefilter:throttle:{s.filter.text}:{t.id}:{Digest.ofParts [group, joined]}"

/-- Read the rate of a throttle: a count and a period in seconds. -/
def readRate (rate : String) : Except Fault (Int × Nat) :=
  match rate.toList.span (· != ',') with
  | (_, []) => .error (.other s!"invalid throttle rate \x60{rate}\x60")
  | (count, _ :: period) => do
      let trimmed (cs : List Char) : String := String.ofList (Text.trim cs)
      let count ← (Text.readInteger (trimmed count)).mapError Fault.integer
      let seconds ← (Text.readNatural (trimmed period)).mapError Fault.integer
      return (count, seconds)

/-- Read the parameters of a throttle: its name, its rate, and its groups. -/
def ofParams (params : List String) : Except Fault Throttle :=
  match params with
  | id :: rate :: groups => do
      let (count, seconds) ← readRate rate
      if groups.isEmpty then throw (.other s!"throttle {id} has no groups")
      match groups.findSome? unknownPart? with
      | some part => throw (.other s!"unknown throttle group \x60{part}\x60")
      | none => return ⟨id, count, seconds, groups⟩
  | _ =>
      .error (.other ("throttle needs an id and a rate, got " ++ Text.quotedList params))

end Throttle

/-! ## All consequences -/

/-- What is done. -/
inductive Measure where
  | throttle (t : Throttle)
  | warn (message : String)
  | disallow (message : String)
  /-- A block of the user, without seconds one without end. -/
  | block (seconds : Option Nat) (blocksTalk : Bool)
  | rangeBlock
  | degroup
  /-- No promotion for a while; without seconds for as long as the settings say. -/
  | blockPromotion (seconds : Option Nat)
  | tag (tags : List String)
  | custom (name : String) (params : List String)
deriving Repr, DecidableEq, Inhabited

namespace Measure

def kind : Measure → ConsequenceKind
  | throttle _ => .throttle
  | warn _ => .warn
  | disallow _ => .disallow
  | block _ _ => .block
  | rangeBlock => .rangeBlock
  | degroup => .degroup
  | blockPromotion _ => .blockPromotion
  | tag _ => .tag
  | custom _ _ => .custom

/-- The name of a measure in actions and logs. -/
def name : Measure → String
  | throttle _ => "throttle"
  | warn _ => "warn"
  | disallow _ => "disallow"
  | block _ _ => "block"
  | rangeBlock => "rangeblock"
  | degroup => "degroup"
  | blockPromotion _ => "blockautopromote"
  | tag _ => "tag"
  | custom name _ => name

/-- The key of the message that the user sees. -/
def messageKey? : Measure → Option String
  | warn message | disallow message => some message
  | block _ _ | rangeBlock => some "abusefilter-blocked-display"
  | degroup => some "abusefilter-degrouped"
  | blockPromotion _ => some "abusefilter-autopromote-blocked"
  | throttle _ | tag _ | custom _ _ => none

/-- The first parameter, or another text if there is none or it is empty. -/
def firstOr (other : String) (params : List String) : String :=
  match params with
  | [] => other
  | param :: _ => if param.isEmpty then other else param

/-- Read the parameters of a block: none, or whether it covers the own talk page and
two durations, for anonymous and for registered users. -/
def readBlock (a : Action) (params : List String) : Except Fault Measure :=
  match params with
  | [] => .ok (block none false)
  | [talk, anonymous, registered] => do
      let seconds ← Duration.parse (if a.isRegistered then registered else anonymous)
      return block seconds (talk == "blocktalk")
  | _ =>
      .error (.other
        ("block expects no parameters or three, got " ++ Text.quotedList params))

/-- Read the parameters of a block of promotions: a number of days, or none. -/
def readPromotion (params : List String) : Except Fault Measure :=
  match params with
  | [] => .ok (blockPromotion none)
  | days :: _ =>
      if days.isEmpty then .ok (blockPromotion none)
      else do
        let n ← (Text.readNatural (String.ofList (Text.trim days.toList))).mapError
          Fault.integer
        if Duration.secondsLimit < n * 86400 then
          throw (.other s!"autopromotion block of {days} days is too long")
        return blockPromotion (some (n * 86400))

/-- The measure that an action of a filter stands for. -/
def ofAction (name : String) (params : List String) (a : Action) : Except Fault Measure :=
  match ConsequenceKind.ofName name with
  | .throttle => (Throttle.ofParams params).map throttle
  | .warn => .ok (warn (firstOr "abusefilter-warning" params))
  | .disallow => .ok (disallow (firstOr "abusefilter-disallowed" params))
  | .block => readBlock a params
  | .rangeBlock => .ok rangeBlock
  | .degroup => .ok degroup
  | .blockPromotion => readPromotion params
  | .tag => .ok (tag (params.filter fun t => !t.isEmpty))
  | .custom => .ok (custom name params)

end Measure

/-- A measure against a subject, and whether it asked to suppress the others of its
filter, once it has been asked about them. -/
structure Consequence where
  subject : Subject
  measure : Measure
  suppresses : Option Bool
deriving Repr, DecidableEq, Inhabited

namespace Consequence

def kind (c : Consequence) : ConsequenceKind :=
  c.measure.kind

def priority (c : Consequence) : Nat :=
  c.kind.priority

def name (c : Consequence) : String :=
  c.measure.name

/-- The consequence of an action of a filter. -/
def build (name : String) (params : List String) (s : Subject) : Except Fault Consequence :=
  (Measure.ofAction name params s.action).map fun m => ⟨s, m, none⟩

/-- The message that the user sees: a key with the name of the filter and its
identity. -/
def message? (c : Consequence) : Option Message :=
  c.measure.messageKey?.map fun key =>
    ⟨key, [c.subject.filterName, c.subject.filter.text]⟩

/-- The flag of the session that tells whether a user was warned by a filter about a
page. -/
def warnedKey (s : Subject) : String :=
  s!"abusefilter-warned-{s.action.page}-{s.filter.text}"

/-- The key under which a block of promotions is kept. -/
def promotionKey (userId : Nat) : String :=
  s!"abusefilter-block-autopromote:{userId}"

end Consequence

end EditGuard
