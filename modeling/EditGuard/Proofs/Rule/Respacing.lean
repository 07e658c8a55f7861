import EditGuard.Proofs.Rule.Layout
import EditGuard.Proofs.Rule.Relocation

/-!
# Blanks and comments mean nothing

The words of a rule may be set apart by other blanks and comments, as long as words without a
gap between them stay together and no others come together.  The same tokens are read, and so
the same rule, or the same problem is found.
-/

namespace EditGuard.Rule

/-- What tokens are and how they are written. -/
def Tokens.said (ts : Tokens) : List (Lexeme × String) :=
  ts.tokens.map fun t => (t.lexeme, t.written)

/-- What is read of a text apart from places: the tree of a rule, or what is wrong. -/
def Source.reading (s : Source) : Except Problem Tree :=
  match s.parse with
  | .ok rule => .ok (tree rule)
  | .error f => .error f.problem

namespace Layout

/-- The same words with other gaps.  Between two words there is no gap exactly if there was
none; before the first word and behind the last one there may be a gap or none. -/
structure Respaces (l k : Layout) : Prop where
  words : k.words = l.words
  gaps : ∀ gap ∈ k.gaps, Gap gap
  between : k.gaps.tail.dropLast.map List.isEmpty = l.gaps.tail.dropLast.map List.isEmpty

/-- The same for what stands behind a word, where only the last gap is free. -/
inductive Follows : Layout → Layout → Prop
  | last {gap other} (isGap : Gap other) : Follows (.last gap) (.last other)
  | word {gap other w l k} (isGap : Gap other) (together : other = [] ↔ gap = [])
      (more : Follows l k) : Follows (.word gap w l) (.word other w k)

variable {m : Mark} {l k : Layout} {ts : Tokens}

theorem gaps_ne_nil (l : Layout) : l.gaps ≠ [] := by
  cases l <;> exact List.cons_ne_nil _ _

theorem follows_of_gaps (words : k.words = l.words) (gaps : ∀ gap ∈ k.gaps, Gap gap)
    (between : k.gaps.dropLast.map List.isEmpty = l.gaps.dropLast.map List.isEmpty) :
    Follows l k := by
  induction l generalizing k with
  | last gap =>
      cases k with
      | last other => exact .last (gaps other (List.mem_singleton_self other))
      | word other w k => cases words
  | word gap w l ih =>
      cases k with
      | last other => cases words
      | word other v k =>
          obtain ⟨rfl, others⟩ := List.cons.inj words
          obtain ⟨isGap, gaps⟩ := List.forall_mem_cons.mp gaps
          rw [Layout.gaps, Layout.gaps, List.dropLast_cons_of_ne_nil (gaps_ne_nil k),
            List.dropLast_cons_of_ne_nil (gaps_ne_nil l), List.map_cons, List.map_cons] at between
          obtain ⟨together, between⟩ := List.cons.inj between
          refine .word isGap ?_ (ih others gaps between)
          rw [← List.isEmpty_iff, together, List.isEmpty_iff]

/-- Behind a word, two settings of the words that follow go on in the same way up to where
both end that word. -/
theorem Follows.exists_common (follows : Follows l k) (gaps : ∀ gap ∈ l.gaps, Gap gap) :
    ∃ common rest other, l.text = common ++ rest ∧ k.text = common ++ other ∧
      WordEnds rest ∧ WordEnds other := by
  induction follows with
  | @last gap other isGap =>
      have here : Gap gap := gaps gap (List.mem_singleton_self gap)
      exact ⟨[], gap, other, rfl, rfl, here.ends, isGap.ends⟩
  | @word gap other w l k isGap together more ih =>
      obtain ⟨here, gaps⟩ := List.forall_mem_cons.mp gaps
      by_cases none : gap = []
      · obtain ⟨common, rest, later, same, sameOther, ends, endsOther⟩ := ih gaps
        refine ⟨w ++ common, rest, later, ?_, ?_, ends, endsOther⟩
        · rw [text, none, same, List.nil_append, List.append_assoc]
        · rw [text, together.mpr none, sameOther, List.nil_append, List.append_assoc]
      · refine ⟨[], gap ++ (w ++ l.text), other ++ (w ++ k.text), ?_, ?_, ?_, ?_⟩
        · exact List.append_assoc _ _ _
        · exact List.append_assoc _ _ _
        · exact here.ends_append none _
        · exact isGap.ends_append (fun empty => none (together.mp empty)) _

/-- A word is read in front of another setting of what follows as it was read before. -/
theorem Follows.read (follows : Follows l k) (gaps : ∀ gap ∈ l.gaps, Gap gap) {first : Char}
    {cs : List Char} {lexeme : Lexeme}
    (read : Lexeme.read first (cs ++ l.text) = .ok (lexeme, cs.length + 1)) :
    Lexeme.read first (cs ++ k.text) = .ok (lexeme, cs.length + 1) := by
  obtain ⟨common, rest, other, same, sameOther, ends, endsOther⟩ := follows.exists_common gaps
  have inside : cs.length + 1 ≤ (cs ++ common).length + 1 := by
    rw [List.length_append]
    omega
  rw [same, ← List.append_assoc, Lexeme.read_append_iff ends inside] at read
  rwa [sameOther, ← List.append_assoc, Lexeme.read_append_iff endsOther inside]

/-- A word is the same token with other gaps around it, if what follows has the same tokens. -/
theorem exists_scans_word {gap other w : List Char} (isGap : Gap other) (follows : Follows l k)
    (scans : (word gap w l).Scans m ts) (n : Mark)
    (others : ∀ {m ts} (n : Mark), l.Scans m ts → ∃ us, k.Scans n us ∧ us.said = ts.said) :
    ∃ us, (word other w k).Scans n us ∧ us.said = ts.said := by
  cases scans with
  | @word _ _ first cs _ lexeme tokens finish here read following =>
      obtain ⟨us, scansOthers, said⟩ := others (n.after (other ++ first :: cs)) following
      refine ⟨_, .word isGap (follows.read following.gap_of_mem read) scansOthers, ?_⟩
      exact congrArg ((lexeme, String.ofList (first :: cs)) :: ·) said

theorem Follows.exists_scans (follows : Follows l k) (scans : l.Scans m ts) (n : Mark) :
    ∃ us, k.Scans n us ∧ us.said = ts.said := by
  induction follows generalizing m ts n with
  | last isGap =>
      cases scans
      exact ⟨_, .last isGap, rfl⟩
  | word isGap together more ih =>
      exact exists_scans_word isGap more scans n fun n scans => ih scans n

/-- A layout with other gaps has the same tokens. -/
theorem Respaces.exists_scans (respaces : Respaces l k) (scans : l.Scans m ts) (n : Mark) :
    ∃ us, k.Scans n us ∧ us.said = ts.said := by
  obtain ⟨words, gaps, between⟩ := respaces
  cases l with
  | last gap =>
      cases k with
      | last other =>
          cases scans
          exact ⟨_, .last (gaps other (List.mem_singleton_self other)), rfl⟩
      | word other w k => cases words
  | word gap w l =>
      cases k with
      | last other => cases words
      | word other v k =>
          obtain ⟨rfl, others⟩ := List.cons.inj words
          obtain ⟨isGap, gaps⟩ := List.forall_mem_cons.mp gaps
          have follows : Follows l k := follows_of_gaps others gaps between
          exact exists_scans_word isGap follows scans n fun n scans =>
            follows.exists_scans scans n

end Layout

/-! ## Reading without places -/

theorem Tokens.forget_eq {ts us : Tokens} (said : us.said = ts.said) :
    Relocation.forget.tokens us = Relocation.forget.tokens ts := by
  have forgets (ts : Tokens) : Relocation.forget.tokens ts =
      ⟨ts.said.map fun w => ⟨w.1, w.2, ⟨⟨0, 0, 0, 0⟩, 0⟩⟩, ⟨0, 0, 0, 0⟩⟩ := by
    rw [Tokens.said, List.map_map]
    rfl
  rw [forgets, forgets, said]

/-- What is read of a text depends only on what its tokens are and how they are written. -/
theorem Source.reading_eq {s : Source} {ts : Tokens} (read : s.tokens = .ok ts) :
    s.reading = match (Relocation.forget.tokens ts).parse with
      | .ok rule => .ok (tree rule)
      | .error f => .error f.problem := by
  have parsed : s.parse = ts.parse := by
    rw [Source.parse, read]
    rfl
  rw [reading, parsed, Parser.parse_moved]
  cases ts.parse with
  | ok rule => exact congrArg Except.ok (Relocation.forget.tree_rule rule).symm
  | error f => rfl

/-- Whatever can be cut into words is cut into the same words when these are set with other
gaps, and then read as the same tree or refused for the same reason. -/
theorem Source.reading_respaced {s : Source} {ts : Tokens} (read : s.tokens = .ok ts) :
    ∃ l : Layout, l.text = s.text.toList ∧ l.Scans .start ts ∧
      ∀ k, l.Respaces k → ∀ name,
        let other : Source := ⟨name, String.ofList k.text⟩
        ∃ us, other.tokens = .ok us ∧ us.said = ts.said ∧ other.reading = s.reading := by
  obtain ⟨l, same, scans⟩ := s.exists_layout read
  refine ⟨l, same, scans, ?_⟩
  intro k respaces name other
  obtain ⟨us, scansOther, said⟩ := respaces.exists_scans scans .start
  have readOther : other.tokens = .ok us := by
    rw [Source.tokens, String.toList_ofList]
    exact Tokens.from_of_scans scansOther
  refine ⟨us, readOther, said, ?_⟩
  rw [reading_eq readOther, reading_eq read, Tokens.forget_eq said]

/-- A rule whose words stand as close together as they can, some with a comment between. -/
def Source.glued : Source :=
  ⟨"glued", "if(a)then 0x1F/**/else'b'end"⟩

theorem Source.reading_respaced_glued :
    ∃ (ts : Tokens) (l : Layout), glued.tokens = .ok ts ∧ l.text = glued.text.toList ∧
      ∀ k, l.Respaces k → ∃ us, (⟨"apart", String.ofList k.text⟩ : Source).tokens = .ok us ∧
        us.said = ts.said ∧
        (⟨"apart", String.ofList k.text⟩ : Source).reading = glued.reading := by
  have cut : glued.tokens.toOption.isSome := by decide +kernel
  obtain ⟨ts, read⟩ := exists_ok_of_isSome cut
  obtain ⟨l, same, -, respaced⟩ := reading_respaced read
  exact ⟨ts, l, read, same, fun k respaces => respaced k respaces "apart"⟩

end EditGuard.Rule
