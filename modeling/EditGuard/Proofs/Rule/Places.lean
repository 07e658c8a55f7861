import EditGuard.Proofs.Text.Lines
import EditGuard.Rule.Source

/-!
# Measuring and quoting places

The lexer counts bytes, characters, lines and columns as it goes; a quotation looks a line up
in the table of lines.  Both agree about every place of a text that is not at a line feed: the
line of the place is in the table, it is the one around the place, and the caret stands under
the place.
-/

namespace EditGuard.Rule

open Text (lead lineAround)

/-! ## Measures -/

namespace Mark

theorem offset_after (m : Mark) (cs : List Char) :
    (m.after cs).offset = m.offset + (String.ofList cs).utf8ByteSize := by
  induction cs generalizing m with
  | nil => rfl
  | cons c cs ih =>
      rw [after_cons, ih, String.ofList_cons, String.utf8ByteSize_append,
        String.utf8ByteSize_singleton, ← Nat.add_assoc]
      rfl

theorem line_next (m : Mark) (c : Char) :
    (m.next c).line = if c = '\n' then m.line + 1 else m.line :=
  rfl

theorem column_next (m : Mark) (c : Char) :
    (m.next c).column = if c = '\n' then 1 else m.column + 1 :=
  rfl

theorem line_after (m : Mark) (cs : List Char) :
    (m.after cs).line = m.line + cs.count '\n' := by
  induction cs generalizing m with
  | nil => rfl
  | cons c cs ih =>
      rw [after_cons, ih, line_next]
      by_cases feed : c = '\n'
      · rw [feed, List.count_cons_self, if_pos rfl]
        omega
      · rw [List.count_cons_of_ne feed, if_neg feed]

/-- Columns count the characters of the line before a place. -/
theorem column_after_start (cs : List Char) :
    (start.after cs).column = 1 + (lead cs).length := by
  induction cs using List.reverseRecOn with
  | nil => rfl
  | append_singleton cs c ih =>
      rw [after_append, after_cons, after_nil, column_next]
      by_cases feed : c = '\n'
      · rw [feed, Text.lead_feed, if_pos rfl]
        rfl
      · rw [Text.lead_concat feed, if_neg feed, ih, List.length_append, List.length_singleton,
          Nat.add_assoc]

/-- A place behind a stretch of text that is not empty has more bytes before it. -/
theorem offset_lt_offset_after (m : Mark) {cs : List Char} (nonempty : cs ≠ []) :
    m.offset < (m.after cs).offset := by
  obtain ⟨c, cs, rfl⟩ := List.exists_cons_of_ne_nil nonempty
  rw [offset_after, String.ofList_cons, String.utf8ByteSize_append,
    String.utf8ByteSize_singleton]
  have := c.utf8Size_pos
  omega

theorem offset_le_offset_after (m : Mark) (cs : List Char) :
    m.offset ≤ (m.after cs).offset := by
  rw [offset_after]
  exact Nat.le_add_right _ _

end Mark

/-! ## Quotations -/

namespace Source

/-- A line of a named text with a caret under one of its columns. -/
def caretQuote (name : String) (line column : Nat) (text : String) : String :=
  let number := toString line
  let margin := blanks (number.length + 1)
  s!"\n--> {name}:{line}:{column}\n" ++ margin ++ "|\n" ++
    number ++ " | " ++ text ++ "\n" ++
    margin ++ "| " ++ blanks (column - 1) ++ "^"

/-- A mark is a place of a text, between what stands before and after it: all its measures are
those of the place, its line is in the table of lines and reaches up to it, and a quotation
shows that line. -/
structure Located (s : Source) (before after : List Char) (m : Mark) : Prop where
  text : s.text.toList = before ++ after
  offset : m.offset = (String.ofList before).utf8ByteSize
  index : m.index = before.length
  line : m.line = 1 + before.count '\n'
  column : m.column = 1 + (lead before).length
  listed : s.lines[m.line - 1]? = some (String.ofList (lineAround before after))
  reaches : m.column - 1 ≤ (lineAround before after).length
  quoted : s.snippet m.line m.column =
    caretQuote s.name (1 + before.count '\n') (1 + (lead before).length)
      (String.ofList (lineAround before after))

/-- A mark is a place of a text. -/
def Locates (s : Source) (m : Mark) : Prop :=
  ∃ before after, s.Located before after m

/-- The line with the number of a place is the line around it. -/
theorem getElem?_lines {s : Source} {before after : List Char}
    (text : s.text.toList = before ++ after) :
    s.lines[before.count '\n']? = some (String.ofList (lineAround before after)) := by
  rw [lines, text, List.getElem?_map, Text.getElem?_linesOf]
  rfl

/-- A quotation of a line of the table shows that line. -/
theorem snippet_of_getElem? {s : Source} {line : Nat} {text : String}
    (listed : s.lines[line]? = some text) (column : Nat) :
    s.snippet (1 + line) column = caretQuote s.name (1 + line) column text := by
  obtain ⟨inside, same⟩ := List.getElem?_eq_some_iff.mp listed
  have inTable : ¬(1 + line = 0 ∨ s.lines.length < 1 + line) := by omega
  have shown : s.line (1 + line - 1) = text := by
    rw [Nat.add_sub_cancel_left, Source.line, List.getD_eq_getElem?_getD, listed]
    rfl
  rw [snippet, if_neg inTable, shown]
  rfl

/-- The places of a text that the lexer counts are located, except those at a line feed. -/
theorem located_after {s : Source} {before after : List Char}
    (text : s.text.toList = before ++ after) (inside : after.head? ≠ some '\n') :
    s.Located before after (Mark.start.after before) := by
  have line : (Mark.start.after before).line = 1 + before.count '\n' := Mark.line_after _ _
  have column := Mark.column_after_start before
  have listed := getElem?_lines text
  constructor
  · exact text
  · rw [Mark.offset_after]
    exact Nat.zero_add _
  · rw [Mark.index_after]
    exact Nat.zero_add _
  · exact line
  · exact column
  · rw [line, Nat.add_sub_cancel_left]
    exact listed
  · rw [column, Nat.add_sub_cancel_left]
    exact (Text.prefix_lineAround before inside).length_le
  · rw [line, column]
    exact snippet_of_getElem? listed _

end Source

end EditGuard.Rule
