import EditGuard.Proofs.Rule.Lexemes
import EditGuard.Proofs.Rule.Places

/-!
# The layout of a rule

A rule is cut into words with gaps between them.  A layout is such a cut of a text; the lexer
finds one in which each word is what is read at its place, or stops at a place where nothing
can be read.
-/

namespace EditGuard.Rule

/-- A text cut into words, with what stands before each of them and behind the last one. -/
inductive Layout where
  | last (gap : List Char)
  | word (gap word : List Char) (more : Layout)

namespace Layout

/-- The text that is cut. -/
def text : Layout → List Char
  | last gap => gap
  | word gap w more => gap ++ w ++ more.text

/-- What stands before, between and behind the words. -/
def gaps : Layout → List (List Char)
  | last gap => [gap]
  | word gap _ more => gap :: more.gaps

def words : Layout → List (List Char)
  | last _ => []
  | word _ w more => w :: more.words

/-- Where the words are in a text that begins at a place. -/
def spans (m : Mark) : Layout → List Span
  | last _ => []
  | word gap w more =>
      ⟨m.after gap, (m.after (gap ++ w)).offset⟩ :: more.spans (m.after (gap ++ w))

/-- The lexer reads the words of a layout, which begins at a place, as tokens.  What stands
between words is a gap, and each word has all the characters of the lexeme that is read where
it begins. -/
inductive Scans : Mark → Layout → Tokens → Prop
  | last {m gap} (isGap : Gap gap) : Scans m (.last gap) ⟨[], m.after gap⟩
  | word {m gap first cs more lexeme tokens finish} (isGap : Gap gap)
      (read : Lexeme.read first (cs ++ more.text) = .ok (lexeme, cs.length + 1))
      (following : Scans (m.after (gap ++ first :: cs)) more ⟨tokens, finish⟩) :
      Scans m (.word gap (first :: cs) more)
        ⟨⟨lexeme, String.ofList (first :: cs),
          ⟨m.after gap, (m.after (gap ++ first :: cs)).offset⟩⟩ :: tokens, finish⟩

theorem Scans.gap_of_mem {m : Mark} {l : Layout} {ts : Tokens} (scans : l.Scans m ts) :
    ∀ gap ∈ l.gaps, Gap gap := by
  induction scans with
  | last isGap =>
      intro gap mem
      cases List.mem_singleton.mp mem
      exact isGap
  | word isGap read following ih => exact List.forall_mem_cons.mpr ⟨isGap, ih⟩

end Layout

namespace Tokens

open Lexeme (gapLength gapLength_nil gapLength_append gapLength_of_read)

variable {m : Mark} {gap cs rest : List Char} {first : Char} {lexeme : Lexeme}

/-- A gap has no tokens. -/
theorem from_gap (isGap : Gap gap) (m : Mark) : Tokens.from m gap = .ok ⟨[], m.after gap⟩ := by
  have length : gapLength gap = gap.length := by
    have whole := gapLength_append isGap []
    rwa [List.append_nil, gapLength_nil, Nat.add_zero] at whole
  rw [Tokens.from, length]
  dsimp only
  split
  · rw [List.take_length]
  · next behind =>
      rw [List.drop_length] at behind
      cases behind

/-- The first word of a text is its first token. -/
theorem from_word (isGap : Gap gap)
    (read : Lexeme.read first (cs ++ rest) = .ok (lexeme, cs.length + 1)) (m : Mark) :
    Tokens.from m (gap ++ first :: cs ++ rest) =
      (Tokens.from (m.after (gap ++ first :: cs)) rest).map fun more =>
        ⟨⟨lexeme, String.ofList (first :: cs),
          ⟨m.after gap, (m.after (gap ++ first :: cs)).offset⟩⟩ :: more.tokens, more.finish⟩ := by
  have length : gapLength (gap ++ (first :: (cs ++ rest))) = gap.length := by
    rw [gapLength_append isGap, gapLength_of_read read, Nat.add_zero]
  rw [List.append_assoc, List.cons_append, Tokens.from, length]
  dsimp only
  split
  · next behind =>
      rw [List.drop_left] at behind
      cases behind
  · next behind =>
      rw [List.drop_left] at behind
      cases behind
      rw [List.take_left, read]
      dsimp only
      rw [Nat.add_sub_cancel, List.take_left, List.drop_left, ← Mark.after_append]
      cases Tokens.from (m.after (gap ++ first :: cs)) rest <;> rfl

/-- A text stops to be cut where nothing can be read. -/
theorem from_stuck (isGap : Gap gap) (noGap : gapLength (first :: cs) = 0) {p : Problem}
    {before : Nat} (failed : Lexeme.read first cs = .error (p, before)) (m : Mark) :
    Tokens.from m (gap ++ first :: cs) =
      .error ⟨p, Span.empty (m.after (gap ++ (first :: cs).take before))⟩ := by
  have length : gapLength (gap ++ first :: cs) = gap.length := by
    rw [gapLength_append isGap, noGap, Nat.add_zero]
  rw [Tokens.from, length]
  dsimp only
  split
  · next behind =>
      rw [List.drop_left] at behind
      cases behind
  · next behind =>
      rw [List.drop_left] at behind
      cases behind
      rw [List.take_left, failed]
      dsimp only
      rw [Mark.after_append]

/-- The lexer cuts a text, or stops where nothing can be read. -/
theorem from_cases (m : Mark) (cs : List Char) :
    (∃ l ts, l.text = cs ∧ Layout.Scans m l ts ∧ Tokens.from m cs = .ok ts) ∨
      ∃ before first more p k, cs = before ++ first :: more ∧
        gapLength (first :: more) = 0 ∧ Lexeme.read first more = .error (p, k) ∧
        Tokens.from m cs =
          .error ⟨p, Span.empty (m.after (before ++ (first :: more).take k))⟩ := by
  induction h : cs.length using Nat.strongRecOn generalizing m cs with
  | _ n ih =>
  subst h
  obtain ⟨gap, rest, rfl, isGap, -, noGap⟩ := Lexeme.exists_gap_over cs
  cases rest with
  | nil =>
      rw [List.append_nil]
      exact .inl ⟨.last gap, _, rfl, .last isGap, from_gap isGap m⟩
  | cons first rest =>
      rcases found : Lexeme.read first rest with ⟨p, k⟩ | ⟨lexeme, length⟩
      · exact .inr ⟨gap, first, rest, p, k, rfl, noGap, found, from_stuck isGap noGap found m⟩
      obtain ⟨positive, inside⟩ := Lexeme.length_of_read found
      obtain ⟨cs, more, rfl, rfl⟩ :
          ∃ cs more, rest = cs ++ more ∧ length = cs.length + 1 :=
        ⟨rest.take (length - 1), rest.drop (length - 1), (List.take_append_drop _ _).symm,
          by rw [List.length_take]; omega⟩
      have step := from_word isGap found m
      rw [List.append_assoc] at step
      rcases ih more.length (by simp; omega) (m.after (gap ++ first :: cs)) more rfl with
        ⟨l, ts, rfl, scans, read⟩ | ⟨before, second, later, p, k, rfl, stops, failed, read⟩
      · rw [read] at step
        exact .inl ⟨.word gap (first :: cs) l, _, List.append_assoc _ _ _, .word isGap found scans,
          step⟩
      · rw [read] at step
        refine .inr ⟨gap ++ first :: cs ++ before, second, later, p, k, ?_, stops, failed, ?_⟩
        · simp
        · rw [List.append_assoc, Mark.after_append]
          exact step

/-- The tokens of a layout are those of its text. -/
theorem from_of_scans {l : Layout} {ts : Tokens} (scans : l.Scans m ts) :
    Tokens.from m l.text = .ok ts := by
  induction scans with
  | last isGap => exact from_gap isGap _
  | word isGap read following ih =>
      rw [Layout.text, from_word isGap read, ih]
      rfl

end Tokens

namespace Source

variable {s : Source}

/-- The tokens of a rule are those of a layout of its text. -/
theorem exists_layout {ts : Tokens} (read : s.tokens = .ok ts) :
    ∃ l : Layout, l.text = s.text.toList ∧ l.Scans .start ts := by
  rcases Tokens.from_cases .start s.text.toList with
    ⟨l, us, same, scans, cut⟩ | ⟨_, _, _, _, _, _, _, _, stuck⟩
  · cases read.symm.trans cut
    exact ⟨l, same, scans⟩
  · cases read.symm.trans stuck

/-- Where the text of a rule cannot be cut, its place is located. -/
theorem locates_of_tokens {f : Finding} (failed : s.tokens = .error f) :
    s.Locates f.span.start := by
  rcases Tokens.from_cases .start s.text.toList with
    ⟨_, _, _, _, cut⟩ | ⟨before, first, more, p, k, same, noGap, stops, stuck⟩
  · cases failed.symm.trans cut
  cases failed.symm.trans stuck
  have split : s.text.toList =
      (before ++ (first :: more).take k) ++ (first :: more).drop k := by
    rw [List.append_assoc, List.take_append_drop, same]
  refine ⟨_, _, located_after split ?_⟩
  rw [List.head?_drop]
  obtain rfl | escape := Lexeme.place_of_read stops
  · rintro ⟨⟩
    exact absurd (Lexeme.not_blank_of_gapLength noGap) (by decide)
  · rw [escape]
    decide

end Source

end EditGuard.Rule
