import EditGuard.Proofs.Rule.Layout

/-!
# Tokens cover a rule

The tokens of a rule are its words in order, each with the stretch that it covers, and all
that they leave out are gaps.
-/

namespace EditGuard.Rule

namespace Layout

/-! ## The spans of words -/

theorem offset_le_of_mem_spans {l : Layout} {m : Mark} {span : Span}
    (mem : span ∈ l.spans m) : m.offset ≤ span.start.offset := by
  induction l generalizing m with
  | last gap => cases mem
  | word gap w more ih =>
      rcases List.mem_cons.mp mem with rfl | later
      · exact m.offset_le_offset_after gap
      · exact Nat.le_trans (m.offset_le_offset_after _) (ih later)

/-- No word begins before the words before it have ended. -/
theorem pairwise_spans (l : Layout) (m : Mark) :
    (l.spans m).Pairwise fun a b => a.stop ≤ b.start.offset := by
  induction l generalizing m with
  | last gap => exact .nil
  | word gap w more ih => exact .cons (fun _ later => offset_le_of_mem_spans later) (ih _)

namespace Scans

variable {m : Mark} {l : Layout} {ts : Tokens}

theorem words_eq (scans : l.Scans m ts) :
    ts.tokens.map (fun t => t.written.toList) = l.words := by
  induction scans with
  | last isGap => rfl
  | word isGap read following ih =>
      rw [List.map_cons, String.toList_ofList, ih]
      rfl

theorem spans_eq (scans : l.Scans m ts) : ts.tokens.map Token.span = l.spans m := by
  induction scans with
  | last isGap => rfl
  | word isGap read following ih =>
      rw [List.map_cons, ih]
      rfl

theorem finish_eq (scans : l.Scans m ts) : ts.finish = m.after l.text := by
  induction scans with
  | last isGap => rfl
  | word isGap read following ih => rw [ih, text, ← Mark.after_append]

/-- A token stands between what comes before it and what comes after it, and begins with a
visible character. -/
theorem exists_place (scans : l.Scans m ts) {t : Token} (mem : t ∈ ts.tokens) :
    ∃ before first cs after, l.text = before ++ first :: cs ++ after ∧
      Text.isBlank first = false ∧ t.written = String.ofList (first :: cs) ∧
      t.span = ⟨m.after before, (m.after (before ++ first :: cs)).offset⟩ := by
  induction scans with
  | last isGap => cases mem
  | @word m gap first cs more lexeme tokens finish isGap read following ih =>
      rcases List.mem_cons.mp mem with rfl | later
      · have noGap := Lexeme.gapLength_of_read read
        exact ⟨gap, first, cs, more.text, rfl, Lexeme.not_blank_of_gapLength noGap, rfl, rfl⟩
      · obtain ⟨before, second, ds, after, same, visible, written, span⟩ := ih later
        refine ⟨gap ++ first :: cs ++ before, second, ds, after, ?_, visible, written, ?_⟩
        · rw [text, same]
          simp
        · rw [span, ← Mark.after_append, ← Mark.after_append]
          simp

end Scans

/-- A layout is that of a rule with its tokens: they are its words in order, each with the
stretch of text that the word takes, none of them empty and each behind those before it, and
what they leave out are gaps. -/
structure Cuts (l : Layout) (s : Source) (ts : Tokens) : Prop where
  text : l.text = s.text.toList
  gaps : ∀ gap ∈ l.gaps, Gap gap
  words : ts.tokens.map (fun t => t.written.toList) = l.words
  spans : ts.tokens.map Token.span = l.spans .start
  nonempty : ∀ t ∈ ts.tokens, t.span.start.offset < t.span.stop
  ordered : ts.tokens.Pairwise fun t u => t.span.stop ≤ u.span.start.offset
  /-- Spans begin and end between characters, and what is written there is the token. -/
  covered : ∀ t ∈ ts.tokens, ∃ before after,
    s.text.toList = before ++ t.written.toList ++ after ∧
      t.span.start.offset = (String.ofList before).utf8ByteSize ∧
      t.span.stop = (String.ofList before).utf8ByteSize + t.written.utf8ByteSize
  finish : ts.finish.offset = s.text.utf8ByteSize

end Layout

namespace Source

/-- The tokens of a rule leave nothing out but gaps: they cut its text into words and gaps, so
that each character belongs to exactly one of these, and the end of the rule follows behind
all of its characters. -/
theorem tokens_lossless {s : Source} {ts : Tokens} (read : s.tokens = .ok ts) :
    ∃ l : Layout, l.Cuts s ts := by
  obtain ⟨l, text, scans⟩ := exists_layout read
  refine ⟨l, text, scans.gap_of_mem, scans.words_eq, scans.spans_eq, ?_, ?_, ?_, ?_⟩
  · intro t mem
    obtain ⟨before, first, cs, after, -, -, -, span⟩ := scans.exists_place mem
    rw [span, Mark.after_append]
    exact Mark.offset_lt_offset_after _ (List.cons_ne_nil _ _)
  · have ordered := l.pairwise_spans .start
    rw [← scans.spans_eq] at ordered
    exact List.pairwise_map.mp ordered
  · intro t mem
    obtain ⟨before, first, cs, after, same, -, written, span⟩ := scans.exists_place mem
    refine ⟨before, after, ?_, ?_, ?_⟩
    · rw [written, String.toList_ofList, ← text, same]
    · rw [span, Mark.offset_after]
      exact Nat.zero_add _
    · rw [span, Mark.after_append, Mark.offset_after, Mark.offset_after, written]
      exact congrArg (· + _) (Nat.zero_add _)
  · rw [scans.finish_eq, text, Mark.offset_after, String.ofList_toList]
    exact Nat.zero_add _

/-- A rule with a text of several bytes, a comment, a line feed and a number at the end. -/
def widened : Source :=
  ⟨"widened", " 'é' /* é */\n=== 0x1F"⟩

theorem tokens_lossless_widened :
    ∃ (ts : Tokens) (l : Layout), widened.tokens = .ok ts ∧ l.Cuts widened ts := by
  have cut : widened.tokens.toOption.isSome := by decide +kernel
  obtain ⟨ts, read⟩ := exists_ok_of_isSome cut
  obtain ⟨l, cuts⟩ := tokens_lossless read
  exact ⟨ts, l, read, cuts⟩

end Source

end EditGuard.Rule
