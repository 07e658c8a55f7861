import EditGuard.Proofs.Rule.Cutting
import EditGuard.Proofs.Rule.Sites
import EditGuard.Proofs.Rule.Soundness

/-!
# Nodes and their tokens

A rule is laid out over its tokens, so each of its nodes is made of some of them by its
production, and has the stretch from the first to the last.  A literal and a variable have just
one, the place of which they keep, and an assignment begins with the name before its sign.  The
operands of a node lie one behind the other over its tokens, and tokens follow one another in
the text: so the stretches of operands are inside the one of their node, and none begins before
those in front of it have ended.
-/

namespace EditGuard.Rule

open Grammar

/-! ## The tokens of a node -/

/-- The tokens up to a rest are those of a node: its production makes it of them, its operands
lie over them, and it has the stretch from the first to the last. -/
structure Made (us vs : List Token) (e : Rule) : Prop where
  operands : Laid us vs e.operands
  produces : Produces (lexemes us) (lexemes vs) (tree e)
  spanned : Spanned us vs e.mark

/-- Each node of expressions has some of the tokens over which these lie. -/
theorem Laid.exists_made {ts rest : List Token} {es : List Rule} (laid : Laid ts rest es)
    {e d : Rule} (member : e ∈ es) (inside : Within e d) :
    ∃ us vs, us <:+ ts ∧ rest <:+ vs ∧ Made us vs d := by
  induction laid generalizing e d with
  | nothing => cases member
  | pass _ ih =>
      obtain ⟨us, vs, within, behind, made⟩ := ih member inside
      exact ⟨us, vs, within, (List.suffix_cons _ _).trans behind, made⟩
  | append first second firstIh secondIh =>
      rcases List.mem_append.mp member with member | member
      · obtain ⟨us, vs, within, behind, made⟩ := firstIh member inside
        exact ⟨us, vs, within, second.suffix.trans behind, made⟩
      · obtain ⟨us, vs, within, behind, made⟩ := secondIh member inside
        exact ⟨us, vs, within.trans first.suffix, behind, made⟩
  | node operands produces spanned ih =>
      cases List.mem_singleton.mp member
      cases inside with
      | root => exact ⟨_, _, List.suffix_refl _, List.suffix_refl _, operands, produces, spanned⟩
      | part member inside => exact ih member inside

/-- What begins and ends with the same token has its stretch. -/
theorem Spanned.single {us vs : List Token} {span : Span} (spanned : Spanned us vs span)
    {w : Lexeme} (one : lexemes us = w :: lexemes vs) :
    ∃ written, us = ⟨w, written, span⟩ :: vs := by
  obtain ⟨⟨lexeme, written, place⟩, more, last, rfl, ⟨taken, t, same, rfl⟩, rfl⟩ := spanned
  have none : taken.length = 0 := by
    have length := congrArg List.length one
    rw [same] at length
    simpa [lexemes] using length
  obtain rfl := List.length_eq_zero_iff.mp none
  obtain ⟨rfl, rfl⟩ := List.cons.inj same
  obtain ⟨rfl, -⟩ := List.cons.inj one
  exact ⟨written, by rw [Parser.through_self]⟩

/-! ## The places of nodes -/

/-- A literal or a variable is at the place of its token, and an assignment begins with a name
in front of the sign. -/
def Stands (all : List Token) : Rule → Prop
  | .literal span v =>
      ∃ lexeme written rest, Literal lexeme v ∧ ⟨lexeme, written, span⟩ :: rest <:+ all
  | .var span x => ∃ written rest, ⟨.name x, written, span⟩ :: rest <:+ all
  | .assign span x _ =>
      ∃ written place sign signPlace rest,
        ⟨.name x, written, place⟩ :: ⟨.operator .assign, sign, signPlace⟩ :: rest <:+ all ∧
          span.start = place.start
  | _ => True

namespace Grammar.Produces

variable {ws vs : List Lexeme}

theorem literal {v : Value} (produces : Produces ws vs (.literal () v)) :
    ∃ w, ws = w :: vs ∧ Literal w v := by
  generalize same : Expr.literal () v = e at produces
  cases produces with
  | statements => cases same
  | expression builds =>
      cases builds with
      | operation joins => cases joins <;> cases same
      | literal literal =>
          cases same
          exact ⟨_, rfl, literal⟩
      | _ => cases same

theorem var {x : String} (produces : Produces ws vs (.var () x)) : ws = .name x :: vs := by
  generalize same : Expr.var () x = e at produces
  cases produces with
  | statements => cases same
  | expression builds =>
      cases builds with
      | operation joins => cases joins <;> cases same
      | var =>
          cases same
          rfl
      | _ => cases same

theorem assign {x : String} {value : Tree} (produces : Produces ws vs (.assign () x value)) :
    ∃ us, ws = .name x :: .operator .assign :: us := by
  generalize same : Expr.assign () x value = e at produces
  cases produces with
  | statements => cases same
  | expression builds =>
      cases builds with
      | operation joins => cases joins <;> cases same
      | assign =>
          cases same
          exact ⟨_, rfl⟩
      | _ => cases same

end Grammar.Produces

/-- A node that is made of tokens stands at them. -/
theorem Made.stands {all us vs : List Token} {e : Rule} (made : Made us vs e)
    (within : us <:+ all) : Stands all e := by
  cases e with
  | literal span v =>
      obtain ⟨w, one, literal⟩ := made.produces.literal
      obtain ⟨written, rfl⟩ := made.spanned.single one
      exact ⟨w, written, vs, literal, within⟩
  | var span x =>
      obtain ⟨written, rfl⟩ := made.spanned.single made.produces.var
      exact ⟨written, vs, within⟩
  | assign span x value =>
      obtain ⟨rest, same⟩ := made.produces.assign
      obtain ⟨first, more, last, rfl, -, spanned⟩ := made.spanned
      obtain ⟨isName, same⟩ := List.cons.inj same
      rcases more with _ | ⟨⟨lexeme, sign, signPlace⟩, more⟩
      · cases same
      obtain ⟨rfl, -⟩ := List.cons.inj same
      obtain ⟨_, written, place⟩ := first
      cases isName
      have start := congrArg Span.start spanned
      exact ⟨written, place, sign, signPlace, more, within, start⟩
  | _ => trivial

/-- All nodes of a rule stand at their tokens. -/
theorem Parser.stands_of_parse {ts : Tokens} {rule d : Rule} (parsed : ts.parse = .ok rule)
    (inside : Within rule d) : Stands ts.tokens d := by
  rcases laid_of_parse parsed with laid | ⟨-, rfl⟩
  · obtain ⟨us, vs, within, -, made⟩ := laid.exists_made (List.mem_singleton_self _) inside
    exact made.stands within
  · cases inside with
    | root => trivial
    | part member => cases member

/-! ## Tokens in a row -/

/-- Tokens follow one another: each ends behind the place where it begins, and none begins
before those in front of it have ended. -/
structure InOrder (ts : List Token) : Prop where
  nonempty : ∀ t ∈ ts, t.span.start.offset < t.span.stop
  ordered : ts.Pairwise fun t u => t.span.stop ≤ u.span.start.offset

theorem InOrder.sublist {us ts : List Token} (inOrder : InOrder ts) (within : us.Sublist ts) :
    InOrder us where
  nonempty t mem := inOrder.nonempty t (within.subset mem)
  ordered := inOrder.ordered.sublist within

theorem InOrder.stop_le {ts us : List Token} (inOrder : InOrder (ts ++ us)) {t u : Token}
    (before : t ∈ ts) (behind : u ∈ us) : t.span.stop ≤ u.span.start.offset :=
  (List.pairwise_append.mp inOrder.ordered).2.2 t before u behind

/-- A stretch goes from where the first of some tokens begins to where the last one ends. -/
def Span.Over (span : Span) (own : List Token) : Prop :=
  ∃ first last, own.head? = some first ∧ own.getLast? = some last ∧
    span = ⟨first.span.start, last.span.stop⟩

namespace Span.Over

variable {span : Span} {own : List Token}

theorem exists_first (covers : span.Over own) : ∃ t ∈ own, span.start = t.span.start := by
  obtain ⟨first, last, head, -, rfl⟩ := covers
  exact ⟨first, List.mem_of_head? head, rfl⟩

theorem exists_last (covers : span.Over own) : ∃ t ∈ own, span.stop = t.span.stop := by
  obtain ⟨first, last, -, behind, rfl⟩ := covers
  exact ⟨last, List.mem_of_getLast? behind, rfl⟩

theorem start_le (covers : span.Over own) (inOrder : InOrder own) {t : Token} (mem : t ∈ own) :
    span.start.offset ≤ t.span.start.offset := by
  obtain ⟨first, last, head, -, rfl⟩ := covers
  obtain ⟨more, rfl⟩ := List.head?_eq_some_iff.mp head
  rcases List.mem_cons.mp mem with rfl | later
  · exact Nat.le_refl _
  · have forward := inOrder.nonempty first List.mem_cons_self
    exact Nat.le_trans (Nat.le_of_lt forward) (List.rel_of_pairwise_cons inOrder.ordered later)

theorem le_stop (covers : span.Over own) (inOrder : InOrder own) {t : Token} (mem : t ∈ own) :
    t.span.stop ≤ span.stop := by
  obtain ⟨first, last, -, behind, rfl⟩ := covers
  obtain ⟨before, rfl⟩ := List.getLast?_eq_some_iff.mp behind
  rcases List.mem_append.mp mem with earlier | same
  · have forward := inOrder.nonempty last List.mem_concat_self
    exact Nat.le_trans (inOrder.stop_le earlier (List.mem_singleton_self _)) (Nat.le_of_lt forward)
  · cases List.mem_singleton.mp same
    exact Nat.le_refl _

theorem start_le_stop (covers : span.Over own) (inOrder : InOrder own) :
    span.start.offset ≤ span.stop := by
  obtain ⟨t, mem, stop⟩ := covers.exists_last
  rw [stop]
  exact Nat.le_trans (covers.start_le inOrder mem) (Nat.le_of_lt (inOrder.nonempty t mem))

end Span.Over

/-- A stretch goes up to where its last token ends, since its first one ends no later. -/
theorem Spanned.exists_over {us vs : List Token} {span : Span} (spanned : Spanned us vs span)
    (inOrder : InOrder us) : ∃ own, us = own ++ vs ∧ span.Over own := by
  obtain ⟨first, more, _, begins, ⟨taken, last, rfl, rfl⟩, rfl⟩ := spanned
  have head : (taken ++ [last]).head? = some first := by
    cases taken <;> cases begins <;> rfl
  have covers : Span.Over ⟨first.span.start, last.span.stop⟩ (taken ++ [last]) :=
    ⟨first, last, head, List.getLast?_concat, rfl⟩
  have same : taken ++ last :: vs = (taken ++ [last]) ++ vs := by
    rw [List.append_assoc, List.singleton_append]
  rw [same] at inOrder
  -- The parser takes the larger one of both ends.
  have ends : first.span.stop ≤ last.span.stop :=
    covers.le_stop (inOrder.sublist (List.sublist_append_left _ _)) (List.mem_of_head? head)
  refine ⟨taken ++ [last], same, ?_⟩
  rwa [Parser.through, Nat.max_eq_left ends]

/-! ## Expressions in a row -/

namespace Laid

variable {ts us rest : List Token} {es : List Rule}

/-- Each node of expressions has tokens of its own among those over which these lie. -/
theorem exists_own (laid : Laid ts rest es) (inOrder : InOrder ts) {e d : Rule}
    (member : e ∈ es) (inside : Within e d) :
    ∃ before own after, ts = before ++ own ++ after ++ rest ∧
      Made (own ++ (after ++ rest)) (after ++ rest) d ∧ d.mark.Over own := by
  obtain ⟨_, _, ⟨before, rfl⟩, ⟨after, rfl⟩, made⟩ := laid.exists_made member inside
  obtain ⟨own, rfl, covers⟩ :=
    made.spanned.exists_over (inOrder.sublist (List.sublist_append_right _ _))
  exact ⟨before, own, after, by simp, made, covers⟩

/-- Expressions over tokens are inside a stretch over these. -/
theorem inside (laid : Laid (ts ++ rest) rest es) (inOrder : InOrder (ts ++ rest)) {span : Span}
    (covers : span.Over ts) {e : Rule} (member : e ∈ es) :
    span.start.offset ≤ e.mark.start.offset ∧ e.mark.stop ≤ span.stop := by
  obtain ⟨before, own, after, same, -, inner⟩ := laid.exists_own inOrder member .root
  obtain rfl := List.append_cancel_right same
  have outerOrder := inOrder.sublist (List.sublist_append_left _ _)
  obtain ⟨first, begins, start⟩ := inner.exists_first
  obtain ⟨last, ends, stop⟩ := inner.exists_last
  rw [start, stop]
  exact ⟨covers.start_le outerOrder (by simp [begins]), covers.le_stop outerOrder (by simp [ends])⟩

/-- None of the expressions begins before those in front of it have ended. -/
theorem pairwise (laid : Laid ts rest es) (inOrder : InOrder ts) :
    es.Pairwise fun c d => c.mark.stop ≤ d.mark.start.offset := by
  induction laid with
  | nothing => exact .nil
  | pass _ ih => exact ih inOrder
  | append first second firstIh secondIh =>
      have behind := inOrder.sublist first.suffix.sublist
      refine List.pairwise_append.mpr ⟨firstIh inOrder, secondIh behind, ?_⟩
      intro c left d right
      obtain ⟨before, own, after, rfl, -, leftOver⟩ := first.exists_own inOrder left .root
      obtain ⟨before', own', after', rfl, -, rightOver⟩ := second.exists_own behind right .root
      obtain ⟨last, ends, stop⟩ := leftOver.exists_last
      obtain ⟨first, begins, start⟩ := rightOver.exists_first
      rw [stop, start]
      exact inOrder.stop_le (by simp [ends]) (by simp [begins])
  | node => exact List.pairwise_singleton _ _

end Laid

/-! ## Places in a text -/

/-- A place behind some of the characters of a text is between two of them. -/
theorem Mark.isValid_after {text : String} {before rest : List Char}
    (split : text.toList = before ++ rest) :
    String.Pos.Raw.IsValid text ⟨(Mark.start.after before).offset⟩ := by
  refine String.Pos.Raw.isValid_iff_exists_append.mpr
    ⟨String.ofList before, String.ofList rest, ?_, ?_⟩
  · rw [← String.ofList_append, ← split, String.ofList_toList]
  · rw [Mark.offset_after]
    exact congrArg String.Pos.Raw.mk (Nat.zero_add _)

namespace Layout.Scans

variable {l : Layout} {ts : Tokens}

theorem inOrder {m : Mark} (scans : l.Scans m ts) : InOrder ts.tokens where
  nonempty t mem := by
    obtain ⟨before, first, cs, after, -, -, -, span⟩ := scans.exists_place mem
    rw [span, Mark.after_append]
    exact Mark.offset_lt_offset_after _ (List.cons_ne_nil _ _)
  ordered := by
    have ordered := l.pairwise_spans m
    rw [← scans.spans_eq] at ordered
    exact List.pairwise_map.mp ordered

theorem isValid {text : String} (scans : l.Scans .start ts) (same : l.text = text.toList)
    {t : Token} (mem : t ∈ ts.tokens) :
    String.Pos.Raw.IsValid text ⟨t.span.start.offset⟩ ∧
      String.Pos.Raw.IsValid text ⟨t.span.stop⟩ := by
  obtain ⟨before, first, cs, after, split, -, -, span⟩ := scans.exists_place mem
  rw [same] at split
  rw [span]
  exact ⟨Mark.isValid_after (split.trans (List.append_assoc _ _ _)), Mark.isValid_after split⟩

end Layout.Scans

/-! ## Nodes of a rule -/

/-- The tokens of a node are a row of those of the rule, of which its production makes it, and
it has their stretch.  A node without tokens is the empty row of statements at the end of the
text. -/
def Owns (ts : Tokens) (e : Rule) : Prop :=
  ∃ before own after, ts.tokens = before ++ own ++ after ∧
    Produces (lexemes (own ++ after)) (lexemes after) (tree e) ∧
    (e.mark.Over own ∨ own = [] ∧ e = .sequence (Span.empty ts.finish) [])

/-- A node of a rule has the stretch of its tokens, which is a part of the text from one place
between characters to another, and the stretches of its operands lie one behind the other
inside its own. -/
structure Nests (s : Source) (ts : Tokens) (e : Rule) : Prop where
  owns : Owns ts e
  forward : e.mark.start.offset ≤ e.mark.stop
  stop_le : e.mark.stop ≤ s.text.utf8ByteSize
  starts : String.Pos.Raw.IsValid s.text ⟨e.mark.start.offset⟩
  stops : String.Pos.Raw.IsValid s.text ⟨e.mark.stop⟩
  inside : ∀ d ∈ e.operands, e.mark.start.offset ≤ d.mark.start.offset ∧ d.mark.stop ≤ e.mark.stop
  apart : e.operands.Pairwise fun c d => c.mark.stop ≤ d.mark.start.offset

namespace Nests

variable {s : Source} {ts : Tokens}

theorem of_made {l : Layout} (scans : l.Scans .start ts) (text : l.text = s.text.toList)
    {before own after : List Token} (same : ts.tokens = before ++ own ++ after) {e : Rule}
    (made : Made (own ++ after) after e) (covers : e.mark.Over own) : Nests s ts e := by
  have behind : InOrder (own ++ after) := by
    have inOrder := scans.inOrder
    rw [same, List.append_assoc] at inOrder
    exact inOrder.sublist (List.sublist_append_right _ _)
  obtain ⟨first, begins, start⟩ := covers.exists_first
  obtain ⟨last, ends, stop⟩ := covers.exists_last
  have firstMem : first ∈ ts.tokens := by simp [same, begins]
  have lastMem : last ∈ ts.tokens := by simp [same, ends]
  have starts := (scans.isValid text firstMem).1
  have stops := (scans.isValid text lastMem).2
  rw [← start] at starts
  rw [← stop] at stops
  exact {
    owns := ⟨before, own, after, same, made.produces, .inl covers⟩
    forward := covers.start_le_stop (behind.sublist (List.sublist_append_left _ _))
    stop_le := stops.le_rawEndPos
    starts := starts
    stops := stops
    inside := fun _ member => made.operands.inside behind covers member
    apart := made.operands.pairwise behind }

theorem nothing (none : ts.tokens = []) (finish : ts.finish = Mark.start.after s.text.toList) :
    Nests s ts (.sequence (Span.empty ts.finish) []) := by
  have atEnd := Mark.isValid_after (List.append_nil s.text.toList).symm
  rw [← finish] at atEnd
  exact {
    owns := ⟨[], [], [], none, .statements .nothing Nat.zero_ne_one, .inr ⟨rfl, rfl⟩⟩
    forward := Nat.le_refl _
    stop_le := atEnd.le_rawEndPos
    starts := atEnd
    stops := atEnd
    inside := fun _ member => by cases member
    apart := .nil }

end Nests

namespace Source

/-- The stretches of a rule that has been read nest. -/
theorem spans_nest {s : Source} {rule : Rule} (parsed : s.parse = .ok rule) :
    ∃ ts, s.tokens = .ok ts ∧ ts.finish = Mark.start.after s.text.toList ∧
      ∀ e, Within rule e → Nests s ts e := by
  obtain ⟨ts, cut, parsed⟩ := exists_of_bind_eq_ok parsed
  obtain ⟨l, text, scans⟩ := exists_layout cut
  have finish : ts.finish = Mark.start.after s.text.toList := by rw [scans.finish_eq, text]
  refine ⟨ts, cut, finish, ?_⟩
  intro e inside
  rcases Parser.laid_of_parse parsed with laid | ⟨none, rfl⟩
  · obtain ⟨before, own, after, same, made, covers⟩ :=
      laid.exists_own scans.inOrder (List.mem_singleton_self _) inside
    rw [List.append_nil] at same made
    exact .of_made scans text same made covers
  · cases inside with
    | root => exact .nothing none finish
    | part member => cases member

/-- A rule with positions that are read as the beginning of an assignment to an item first. -/
def retried : Source :=
  ⟨"retried", "x[(0)] := 'é'; x[y[1]][0] + (z; ; x[z[2] := 3])"⟩

theorem spans_nest_retried :
    ∃ rule ts, retried.parse = .ok rule ∧ retried.tokens = .ok ts ∧
      ts.finish = Mark.start.after retried.text.toList ∧
      ∀ e, Within rule e → Nests retried ts e := by
  have isRule : retried.parse.toOption.isSome := by decide +kernel
  obtain ⟨rule, parsed⟩ := exists_ok_of_isSome isRule
  obtain ⟨ts, cut, finish, nests⟩ := spans_nest parsed
  exact ⟨rule, ts, parsed, cut, finish, nests⟩

end Source

end EditGuard.Rule
