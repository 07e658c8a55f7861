import Mathlib.Data.List.Infix
import EditGuard.Rule.Lexer

/-!
# Gaps between words

What may stand between words, apart from how it is skipped: blanks, and comments that end
where they first can.  The lexer skips a gap, and never less than there is of one.
-/

namespace EditGuard.Rule

/-- Blanks and complete comments in a row. -/
inductive Gap : List Char → Prop
  | nothing : Gap []
  | blank {c cs} (isBlank : Text.isBlank c = true) (more : Gap cs) : Gap (c :: cs)
  | comment {body cs} (unended : ¬['*', '/'] <:+: body) (more : Gap cs) :
      Gap ('/' :: '*' :: (body ++ '*' :: '/' :: cs))

namespace Lexeme

/-! ## Comments -/

theorem commentLength_cons {c : Char} {cs : List Char}
    (goesOn : ¬(c = '*' ∧ cs.head? = some '/')) :
    commentLength (c :: cs) = (commentLength cs).map (· + 1) := by
  rw [commentLength]
  rintro rest rfl rfl
  exact goesOn ⟨rfl, rfl⟩

/-- A text in which no comment ends does not end one with its first characters. -/
theorem not_ends_of_unended {c : Char} {body rest : List Char}
    (unended : ¬['*', '/'] <:+: c :: body) :
    ¬(c = '*' ∧ (body ++ '*' :: '/' :: rest).head? = some '/') := by
  rintro ⟨rfl, ends⟩
  cases body with
  | nil => cases ends
  | cons d body =>
      cases ends
      exact unended (List.infix_iff_prefix_suffix.mpr
        ⟨_, List.prefix_append ['*', '/'] body, List.suffix_refl _⟩)

theorem commentLength_append {body : List Char} (unended : ¬['*', '/'] <:+: body)
    (rest : List Char) : commentLength (body ++ '*' :: '/' :: rest) = some (body.length + 2) := by
  induction body with
  | nil => rfl
  | cons c body ih =>
      have unendedMore : ¬['*', '/'] <:+: body := fun ends => unended (List.infix_cons ends)
      rw [List.cons_append, commentLength_cons (not_ends_of_unended unended), ih unendedMore]
      rfl

theorem exists_of_commentLength {cs : List Char} {n : Nat} (ends : commentLength cs = some n) :
    ∃ body rest, cs = body ++ '*' :: '/' :: rest ∧ n = body.length + 2 ∧
      ¬['*', '/'] <:+: body := by
  induction cs generalizing n with
  | nil => cases ends
  | cons c cs ih =>
      by_cases here : c = '*' ∧ cs.head? = some '/'
      · obtain ⟨rfl, slash⟩ := here
        obtain ⟨rest, rfl⟩ := List.head?_eq_some_iff.mp slash
        cases ends
        exact ⟨[], rest, rfl, rfl, by simp⟩
      · rw [commentLength_cons here, Option.map_eq_some_iff] at ends
        obtain ⟨m, ends, rfl⟩ := ends
        obtain ⟨body, rest, rfl, rfl, unended⟩ := ih ends
        refine ⟨c :: body, rest, rfl, rfl, ?_⟩
        intro ended
        rcases List.infix_cons_iff.mp ended with starts | inside
        · obtain ⟨_, same⟩ := starts
          cases same
          exact here ⟨rfl, rfl⟩
        · exact unended inside

/-! ## Skipping -/

theorem gapLength_nil : gapLength [] = 0 :=
  gapLength.eq_def _

theorem gapLength_opened (cs : List Char) :
    gapLength ('/' :: '*' :: cs) = match commentLength cs with
      | some n => 2 + n + gapLength (cs.drop n)
      | none => 0 :=
  gapLength.eq_def _

theorem gapLength_cons {c : Char} {cs : List Char} (other : ¬(c = '/' ∧ cs.head? = some '*')) :
    gapLength (c :: cs) = if Text.isBlank c then 1 + gapLength cs else 0 := by
  rw [gapLength.eq_def]
  split
  · next none => cases none
  · next comment =>
      cases comment
      exact absurd ⟨rfl, rfl⟩ other
  · next same =>
      cases same
      rfl

theorem gapLength_blank {c : Char} (blank : Text.isBlank c = true) (cs : List Char) :
    gapLength (c :: cs) = 1 + gapLength cs := by
  rw [gapLength_cons, if_pos blank]
  rintro ⟨rfl, -⟩
  exact absurd blank (by decide)

theorem drop_comment (body rest : List Char) :
    (body ++ '*' :: '/' :: rest).drop (body.length + 2) = rest := by
  rw [← List.drop_drop, List.drop_left]
  rfl

theorem gapLength_comment {body : List Char} (unended : ¬['*', '/'] <:+: body)
    (rest : List Char) :
    gapLength ('/' :: '*' :: (body ++ '*' :: '/' :: rest)) =
      body.length + 4 + gapLength rest := by
  rw [gapLength_opened, commentLength_append unended rest]
  simp only [drop_comment]
  omega

/-- A gap is skipped together with what there is of one behind it. -/
theorem gapLength_append {gap : List Char} (isGap : Gap gap) (rest : List Char) :
    gapLength (gap ++ rest) = gap.length + gapLength rest := by
  induction isGap with
  | nothing => exact (Nat.zero_add _).symm
  | blank isBlank more ih =>
      rw [List.cons_append, gapLength_blank isBlank, ih, List.length_cons]
      omega
  | @comment body cs unended more ih =>
      rw [List.cons_append, List.cons_append, List.append_assoc, List.cons_append,
        List.cons_append, gapLength_comment unended, ih]
      simp only [List.length_cons, List.length_append]
      omega

/-- What the lexer skips is a gap. -/
theorem exists_gap (cs : List Char) :
    ∃ gap rest, cs = gap ++ rest ∧ Gap gap ∧ gapLength cs = gap.length := by
  fun_induction gapLength cs with
  | case1 => exact ⟨[], [], rfl, .nothing, rfl⟩
  | case2 following n ends ih =>
      obtain ⟨body, behind, rfl, rfl, unended⟩ := exists_of_commentLength ends
      rw [drop_comment] at ih ⊢
      obtain ⟨gap, rest, rfl, isGap, length⟩ := ih
      refine ⟨'/' :: '*' :: (body ++ '*' :: '/' :: gap), rest, ?_, .comment unended isGap, ?_⟩
      · simp
      · simp only [List.length_cons, List.length_append, length]
        omega
  | case3 following unended => exact ⟨[], _, rfl, .nothing, rfl⟩
  | case4 c following notComment isBlank ih =>
      obtain ⟨gap, rest, rfl, isGap, length⟩ := ih
      refine ⟨c :: gap, rest, rfl, .blank isBlank isGap, ?_⟩
      rw [List.length_cons, length, Nat.add_comm]
  | case5 c following notComment notBlank => exact ⟨[], _, rfl, .nothing, rfl⟩

/-- What the lexer skips is a gap, behind which stands no more of one. -/
theorem exists_gap_over (cs : List Char) :
    ∃ gap rest, cs = gap ++ rest ∧ Gap gap ∧ gapLength cs = gap.length ∧ gapLength rest = 0 := by
  obtain ⟨gap, rest, rfl, isGap, length⟩ := exists_gap cs
  refine ⟨gap, rest, rfl, isGap, length, ?_⟩
  rw [gapLength_append isGap] at length
  omega

theorem not_blank_of_gapLength {c : Char} {cs : List Char} (noGap : gapLength (c :: cs) = 0) :
    Text.isBlank c = false := by
  apply Bool.eq_false_iff.mpr
  intro blank
  rw [gapLength_blank blank] at noGap
  omega

end Lexeme

end EditGuard.Rule
