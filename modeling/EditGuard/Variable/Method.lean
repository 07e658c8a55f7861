import EditGuard.Text.Quoted

/-!
# Methods of computing variables

A variable that is computed when it is read names a method.  Some methods work on
other variables alone; the others are questions to the host.
-/

namespace EditGuard.Variable

/-- Methods that need nothing but other variables. -/
inductive Intrinsic where
  /-- The difference of two texts. -/
  | difference
  /-- The lines that a difference adds or removes. -/
  | differenceSide
  | length
  | subtraction
  /-- The links that only the new one of two lists has. -/
  | linksAdded
  /-- The links that only the old one of two lists has. -/
  | linksRemoved
  | withoutTags
  | lines
deriving Repr, DecidableEq, Inhabited

/-- Methods that the host carries out. -/
inductive HostMethod where
  | linksFromWikitext
  | linksFromDatabase
  | parseWikitext
  | loadRecentAuthors
  | loadFirstAuthor
  | pageRestrictions
  | userBlock
  | userAge
  | userGroups
  | userRights
  | pageAge
  | revisionTextById
  | userUnnamedIp
  | custom (name : String)
deriving Repr, DecidableEq, Inhabited

/-- A method of computing a variable. -/
inductive Method where
  | intrinsic (i : Intrinsic)
  | host (h : HostMethod)
deriving Repr, DecidableEq, Inhabited

/-- The name of a method in records. -/
def HostMethod.record : HostMethod → String
  | linksFromWikitext => "LinksFromWikitext"
  | linksFromDatabase => "LinksFromDatabase"
  | parseWikitext => "ParseWikitext"
  | loadRecentAuthors => "LoadRecentAuthors"
  | loadFirstAuthor => "LoadFirstAuthor"
  | pageRestrictions => "PageRestrictions"
  | userBlock => "UserBlock"
  | userAge => "UserAge"
  | userGroups => "UserGroups"
  | userRights => "UserRights"
  | pageAge => "PageAge"
  | revisionTextById => "RevisionTextById"
  | userUnnamedIp => "UserUnnamedIp"
  | custom name => s!"Custom({Text.quoted name})"

end EditGuard.Variable
