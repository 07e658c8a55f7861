/-!
# Lines

Ways to cut a text into lines.  They differ in what ends a line and in whether
the end of the text after a line feed is a line of its own.
-/

namespace EditGuard.Text

/-- Cut at each place of a mark.  There is always one piece more than marks. -/
def pieces (mark : Char) : List Char → List (List Char)
  | [] => [[]]
  | c :: cs =>
      if c = mark then [] :: pieces mark cs
      else
        match pieces mark cs with
        | [] => [[c]]
        | piece :: rest => (c :: piece) :: rest

/-- A carriage return at the end of a piece belongs to the line break. -/
def trimReturn (piece : List Char) : List Char :=
  if piece.getLast? = some '\r' then piece.dropLast else piece

/-- The lines of a text.  A line ends at a line feed, with or without a
carriage return before it; what follows the last line feed is a line too. -/
def linesOf (cs : List Char) : List (List Char) :=
  let all := pieces '\n' cs
  all.dropLast.map trimReturn ++ all.getLast?.toList

/-- The lines of a text, of which the last one may lack a line feed.  Nothing
follows a line feed at the end. -/
def endedLines (cs : List Char) : List (List Char) :=
  let all := linesOf cs
  if all.getLast? = some [] then all.dropLast else all

/-- The pieces between line feeds, without the empty one after a line feed at the
end.  The empty text has none. -/
def feedLines (cs : List Char) : List (List Char) :=
  let all := pieces '\n' cs
  if all.getLast? = some [] then all.dropLast else all

end EditGuard.Text
