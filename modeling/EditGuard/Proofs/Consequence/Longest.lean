import EditGuard.Proofs.Consequence.Blocks
import Mathlib.Data.ENat.Basic
import Mathlib.Data.List.Pairwise

/-!
# The longest block

Of the blocks of a list the one is kept that no other one outlasts, and of those that last
equally long the one whose filter comes first.  All that is no block is kept where it stands.
Which block is kept does not depend on the order of the list, if no two are of one filter.
-/

namespace EditGuard.Execution

/-! ## How long blocks last -/

/-- How long a block lasts; one without seconds has no end. -/
def lasting : Option Nat → ℕ∞
  | none => ⊤
  | some seconds => seconds

/-- A block without end outlasts every other one, and a longer one a shorter one. -/
theorem outlasts_iff {a b : Option Nat} : outlasts a b = true ↔ lasting b < lasting a := by
  cases a <;> cases b <;> simp [outlasts, lasting]

theorem lasting_inj {a b : Option Nat} (same : lasting a = lasting b) : a = b := by
  cases a <;> cases b <;> simp_all [lasting]

/-- A block is not preferred to another one if it is shorter, or as long and its filter does
not come first. -/
theorem isPreferred_eq_false_iff {a b : Option Nat × FilterId} :
    isPreferred a b = false ↔
      lasting a.1 < lasting b.1 ∨ a.1 = b.1 ∧ (compare b.2 a.2).isLE = true := by
  rw [← Bool.not_eq_true, isPreferred_iff, outlasts_iff, not_or, not_lt]
  have notFirst : ¬ compare a.2 b.2 = .lt ↔ (compare b.2 a.2).isLE = true := by
    rw [← Std.OrientedCmp.gt_iff_lt]
    cases compare b.2 a.2 <;> decide
  constructor
  · rintro ⟨notLonger, notEarlier⟩
    rcases notLonger.lt_or_eq with shorter | same
    · exact .inl shorter
    · have same := lasting_inj same
      exact .inr ⟨same, notFirst.mp fun earlier => notEarlier ⟨same, earlier⟩⟩
  · rintro (shorter | ⟨same, later⟩)
    · refine ⟨shorter.le, ?_⟩
      rintro ⟨same, -⟩
      rw [same] at shorter
      exact lt_irrefl _ shorter
    · exact ⟨by rw [same], fun earlier => notFirst.mpr later earlier.2⟩

/-- What is not preferred to a block that is not preferred to another one is not preferred to
that one either. -/
theorem isPreferred_eq_false_trans {a b c : Option Nat × FilterId}
    (first : isPreferred a b = false) (second : isPreferred b c = false) :
    isPreferred a c = false := by
  rw [isPreferred_eq_false_iff] at first second ⊢
  rcases first with shorter | ⟨same, later⟩
  · rcases second with shorter' | ⟨same', _⟩
    · exact .inl (shorter.trans shorter')
    · rw [← same']
      exact .inl shorter
  · rcases second with shorter' | ⟨same', later'⟩
    · rw [same]
      exact .inl shorter'
    · exact .inr ⟨same.trans same', Std.TransCmp.isLE_trans later' later⟩

/-! ## The block that leads a list -/

/-- A block leads a list, cut before and after it, if it is preferred to all blocks before it
and no block after it is preferred to it. -/
structure Leads (before : List Consequence) (key : Option Nat × FilterId)
    (after : List Consequence) : Prop where
  before : ∀ d ∈ before, ∀ other ∈ blockKey? d, isPreferred key other = true
  after : Longest after key

/-- A list with a block can be cut at the one that leads it. -/
theorem exists_leads {cs : List Consequence} (some_block : ∃ c ∈ cs, c.kind = .block) :
    ∃ before chosen after key, cs = before ++ chosen :: after ∧ blockKey? chosen = some key ∧
      Leads before key after := by
  induction cs with
  | nil =>
      obtain ⟨c, mem, -⟩ := some_block
      cases mem
  | cons c cs ih =>
      by_cases later : ∃ d ∈ cs, d.kind = .block
      · obtain ⟨before, chosen, after, key, rfl, isBlock, leads⟩ := ih later
        have further (ahead : ∀ own ∈ blockKey? c, isPreferred key own = true) :
            Leads (c :: before) key after := by
          refine ⟨fun d mem => ?_, leads.after⟩
          rcases List.mem_cons.mp mem with rfl | mem
          · exact ahead
          · exact leads.before d mem
        by_cases ahead : ∀ own ∈ blockKey? c, isPreferred key own = true
        · exact ⟨c :: before, chosen, after, key, rfl, isBlock, further ahead⟩
        · obtain ⟨own, isOwn, notAhead⟩ : ∃ own ∈ blockKey? c, isPreferred key own = false := by
            simpa using ahead
          refine ⟨[], c, before ++ chosen :: after, own, rfl, isOwn, ⟨by rintro d ⟨⟩, ?_⟩⟩
          intro d mem other isOther
          rcases List.mem_append.mp mem with mem | mem
          · -- were it preferred to the new block, then the old one would be too
            rw [← Bool.not_eq_true]
            intro preferred
            have both := isPreferred_trans (leads.before d mem other isOther) preferred
            rw [notAhead] at both
            contradiction
          · rcases List.mem_cons.mp mem with rfl | mem
            · rw [isBlock] at isOther
              cases isOther
              exact notAhead
            · exact isPreferred_eq_false_trans (leads.after d mem other isOther) notAhead
      · obtain ⟨d, mem, blocks⟩ := some_block
        have here : d = c := by
          rcases List.mem_cons.mp mem with same | mem
          · exact same
          · exact absurd ⟨d, mem, blocks⟩ later
        rw [here] at blocks
        obtain ⟨key, isBlock⟩ := (isBlock_iff c).mp blocks
        refine ⟨[], c, cs, key, rfl, isBlock, ⟨by rintro d ⟨⟩, ?_⟩⟩
        intro d mem other isOther
        exact absurd ⟨d, mem, (isBlock_iff d).mpr ⟨other, isOther⟩⟩ later

/-- The search finds the block that leads. -/
theorem longestBlock?_of_leads {before : List Consequence} {chosen : Consequence}
    {after : List Consequence} {key : Option Nat × FilterId} (isBlock : blockKey? chosen = some key)
    (leads : Leads before key after) (i : Nat) {best : Option (Nat × Option Nat × FilterId)}
    (ahead : ∀ b ∈ best, isPreferred key b.2 = true) :
    longestBlock? i best (before ++ chosen :: after) = some (i + before.length) := by
  induction before generalizing i best with
  | nil =>
      have taken : (best.map fun b => isPreferred key b.2).getD true = true := by
        cases best with
        | none => rfl
        | some b => exact ahead b rfl
      rw [List.nil_append, longestBlock?_cons_of_some isBlock, if_pos taken]
      exact (longestBlock?_eq_iff (Nat.lt_succ_self i)).mpr leads.after
  | cons c before ih =>
      have rest : Leads before key after :=
        ⟨fun d mem => leads.before d (List.mem_cons_of_mem _ mem), leads.after⟩
      have place : i + 1 + before.length = i + (c :: before).length := by
        rw [List.length_cons]
        omega
      rw [List.cons_append, ← place]
      cases own : blockKey? c with
      | none =>
          rw [longestBlock?_cons_of_none own]
          exact ih rest (i + 1) ahead
      | some other =>
          rw [longestBlock?_cons_of_some own]
          refine ih rest (i + 1) ?_
          intro b isBest
          split at isBest
          · cases isBest
            exact leads.before c List.mem_cons_self other own
          · exact ahead b isBest

/-- Where there is no block, the search finds the best one before. -/
theorem longestBlock?_of_noBlock {cs : List Consequence} (noBlock : ∀ c ∈ cs, c.kind ≠ .block)
    {i : Nat} {best : Option (Nat × Option Nat × FilterId)} :
    longestBlock? i best cs = best.map Prod.fst := by
  induction cs generalizing i with
  | nil => rfl
  | cons c cs ih =>
      have isNone : blockKey? c = none := by
        rw [Option.eq_none_iff_forall_ne_some]
        intro key isKey
        exact noBlock c List.mem_cons_self ((isBlock_iff c).mpr ⟨key, isKey⟩)
      rw [longestBlock?_cons_of_none isNone]
      exact ih fun d mem => noBlock d (List.mem_cons_of_mem _ mem)

/-! ## What is kept -/

/-- A list without its blocks. -/
def nonBlocks (cs : List Consequence) : List Consequence :=
  cs.filter fun c => decide (c.kind ≠ .block)

theorem nonBlocks_eq_self {cs : List Consequence} (noBlock : ∀ c ∈ cs, c.kind ≠ .block) :
    nonBlocks cs = cs := by
  rw [nonBlocks, List.filter_eq_self]
  exact fun c mem => decide_eq_true (noBlock c mem)

theorem dropOtherBlocks_cons (chosen : Option Nat) (i : Nat) (c : Consequence)
    (cs : List Consequence) (other : chosen ≠ some i) :
    dropOtherBlocks chosen i (c :: cs) = nonBlocks [c] ++ dropOtherBlocks chosen (i + 1) cs := by
  rw [dropOtherBlocks, nonBlocks]
  by_cases isBlock : c.kind = .block
  · simp [isBlock, other]
  · simp [isBlock]

theorem nonBlocks_cons (c : Consequence) (cs : List Consequence) :
    nonBlocks (c :: cs) = nonBlocks [c] ++ nonBlocks cs :=
  List.filter_append (p := fun c : Consequence => decide (c.kind ≠ .block)) [c] cs

/-- All blocks are dropped if the number that is to be kept is passed, or there is none. -/
theorem dropOtherBlocks_of_passed {chosen : Option Nat} {i : Nat}
    (passed : ∀ m ∈ chosen, m < i) (cs : List Consequence) :
    dropOtherBlocks chosen i cs = nonBlocks cs := by
  induction cs generalizing i with
  | nil => rfl
  | cons c cs ih =>
      have other : chosen ≠ some i := fun isChosen => Nat.lt_irrefl i (passed i isChosen)
      rw [dropOtherBlocks_cons chosen i c cs other, nonBlocks_cons c cs,
        ih fun m mem => Nat.lt_succ_of_lt (passed m mem)]

theorem dropOtherBlocks_append (i : Nat) (before : List Consequence) (c : Consequence)
    (after : List Consequence) :
    dropOtherBlocks (some (i + before.length)) i (before ++ c :: after) =
      nonBlocks before ++ c :: nonBlocks after := by
  induction before generalizing i with
  | nil =>
      rw [List.nil_append, dropOtherBlocks, if_neg fun dropped => dropped.2 rfl,
        dropOtherBlocks_of_passed]
      · rfl
      · rintro m ⟨⟩
        exact Nat.lt_succ_self i
  | cons d before ih =>
      have place : i + (d :: before).length = i + 1 + before.length := by
        rw [List.length_cons]
        omega
      have other : some (i + (d :: before).length) ≠ some i := by
        intro same
        have := Option.some.inj same
        omega
      rw [List.cons_append, dropOtherBlocks_cons _ i d _ other, place, ih,
        nonBlocks_cons d before, List.append_assoc]

/-- A block of a list that no other one outlasts, and whose filter comes first of all blocks
that last as long. -/
structure IsLongest (cs : List Consequence) (chosen : Consequence) : Prop where
  isBlock : chosen.kind = .block
  longest : ∀ other ∈ cs, ∀ seconds ∈ blockLength? other, ∀ own ∈ blockLength? chosen,
    lasting seconds ≤ lasting own
  first : ∀ other ∈ cs, blockLength? other = blockLength? chosen →
    (compare chosen.subject.filter other.subject.filter).isLE = true

theorem isLongest_iff {cs : List Consequence} {chosen : Consequence}
    {key : Option Nat × FilterId} (isKey : blockKey? chosen = some key) :
    IsLongest cs chosen ↔ Longest cs key := by
  obtain ⟨own, length, rfl⟩ := Option.map_eq_some_iff.mp isKey
  constructor
  · intro isLongest d mem other isOther
    obtain ⟨seconds, lengthToo, rfl⟩ := Option.map_eq_some_iff.mp isOther
    rw [isPreferred_eq_false_iff]
    rcases (isLongest.longest d mem seconds lengthToo own length).lt_or_eq with shorter | same
    · exact .inl shorter
    · have same := lasting_inj same
      refine .inr ⟨same, isLongest.first d mem ?_⟩
      rw [length, lengthToo, same]
  · intro longest
    have notPreferred : ∀ d ∈ cs, ∀ seconds ∈ blockLength? d,
        lasting seconds < lasting own ∨
          seconds = own ∧ (compare chosen.subject.filter d.subject.filter).isLE = true := by
      intro d mem seconds isLength
      have isKey : blockKey? d = some (seconds, d.subject.filter) := by
        rw [blockKey?, isLength]
        rfl
      exact isPreferred_eq_false_iff.mp (longest d mem _ isKey)
    refine ⟨(isBlock_iff chosen).mpr ⟨_, isKey⟩, ?_, ?_⟩
    · intro d mem seconds isLength own' isOwn
      rw [length] at isOwn
      cases isOwn
      rcases notPreferred d mem seconds isLength with shorter | ⟨same, _⟩
      · exact shorter.le
      · rw [same]
    · intro d mem same
      rcases notPreferred d mem own (same.trans length) with shorter | ⟨_, first⟩
      · exact absurd shorter (lt_irrefl _)
      · exact first

/-- Of the blocks the one is kept that leads the list. -/
theorem exists_keepLongestBlock {cs : List Consequence} (some_block : ∃ c ∈ cs, c.kind = .block) :
    ∃ before chosen after, cs = before ++ chosen :: after ∧ IsLongest cs chosen ∧
      keepLongestBlock cs = nonBlocks before ++ chosen :: nonBlocks after := by
  obtain ⟨before, chosen, after, key, rfl, isBlock, leads⟩ := exists_leads some_block
  refine ⟨before, chosen, after, rfl, (isLongest_iff isBlock).mpr ?_, ?_⟩
  · intro d mem other isOther
    rcases List.mem_append.mp mem with mem | mem
    · exact isPreferred_asymm (leads.before d mem other isOther)
    · rcases List.mem_cons.mp mem with rfl | mem
      · rw [isBlock] at isOther
        cases isOther
        exact isPreferred_self key
      · exact leads.after d mem other isOther
  · have nothingBefore : ∀ b ∈ (none : Option (Nat × Option Nat × FilterId)),
        isPreferred key b.2 = true := by
      rintro b ⟨⟩
    have found := longestBlock?_of_leads isBlock leads 0 nothingBefore
    rw [keepLongestBlock, found]
    exact dropOtherBlocks_append 0 before chosen after

/-- No two blocks are the longest, if no two are of one filter. -/
theorem IsLongest.unique {cs : List Consequence} (single : SingleBlocks cs)
    {c d : Consequence} (first : c ∈ cs) (second : d ∈ cs) (longest : IsLongest cs c)
    (longestToo : IsLongest cs d) : c = d := by
  by_contra different
  obtain ⟨key, isKey⟩ := (isBlock_iff c).mp longest.isBlock
  obtain ⟨other, isOther⟩ := (isBlock_iff d).mp longestToo.isBlock
  have : Std.Symm fun c d : Consequence =>
      ∀ key ∈ blockKey? c, ∀ other ∈ blockKey? d, key.2 ≠ other.2 :=
    ⟨fun _ _ apart key isKey other isOther => (apart other isOther key isKey).symm⟩
  rw [SingleBlocks] at single
  have apart : key.2 ≠ other.2 := single.forall first second different key isKey other isOther
  have preferred : isPreferred other key = true :=
    isPreferred_of_not apart ((isLongest_iff isOther).mp longestToo c first key isKey)
  rw [(isLongest_iff isKey).mp longest d second other isOther] at preferred
  contradiction

theorem IsLongest.of_perm {cs ds : List Consequence} (same : ds.Perm cs) {c : Consequence}
    (longest : IsLongest cs c) : IsLongest ds c where
  isBlock := longest.isBlock
  longest := fun other mem => longest.longest other (same.subset mem)
  first := fun other mem => longest.first other (same.subset mem)

/-- All that is no block is kept in its order, and of the blocks exactly one, which no other
one outlasts and whose filter comes first of those that last as long.  If no two blocks are of
one filter, then this determines it wherever the blocks stand. -/
theorem keepLongestBlock_keeps (cs : List Consequence) :
    ((∀ c ∈ cs, c.kind ≠ .block) → keepLongestBlock cs = cs) ∧
    ((∃ c ∈ cs, c.kind = .block) → ∃ before chosen after, cs = before ++ chosen :: after ∧
      IsLongest cs chosen ∧
      keepLongestBlock cs = nonBlocks before ++ chosen :: nonBlocks after) ∧
    (SingleBlocks cs → ∀ chosen ∈ cs, IsLongest cs chosen → ∀ ds, ds.Perm cs →
      ∃ before after, ds = before ++ chosen :: after ∧
        keepLongestBlock ds = nonBlocks before ++ chosen :: nonBlocks after) := by
  refine ⟨?_, exists_keepLongestBlock, ?_⟩
  case refine_1 =>
    intro noBlock
    rw [keepLongestBlock, longestBlock?_of_noBlock noBlock, Option.map_none,
      dropOtherBlocks_of_passed (by rintro m ⟨⟩), nonBlocks_eq_self noBlock]
  case refine_2 =>
    intro single chosen mem longest ds same
    have inside : chosen ∈ ds := same.mem_iff.mpr mem
    obtain ⟨before, kept, after, rfl, keptLongest, keeps⟩ :=
      exists_keepLongestBlock ⟨chosen, inside, longest.isBlock⟩
    have isKept : kept = chosen := by
      refine IsLongest.unique single ?_ mem (keptLongest.of_perm same.symm) longest
      exact same.subset (List.mem_append_right _ List.mem_cons_self)
    subst isKept
    exact ⟨before, after, rfl, keeps⟩

/-- Three blocks, of which two last a week, among other consequences. -/
theorem keepLongestBlock_keeps_weeks :
    let block (number seconds : Nat) : Consequence :=
      ⟨⟨⟨false, number⟩, "", default⟩, .block (some seconds) false, none⟩
    let tag : Consequence := ⟨⟨⟨false, 4⟩, "", default⟩, .tag ["odd"], none⟩
    let cs := [block 3 604800, tag, block 1 3600, block 2 604800]
    SingleBlocks cs ∧ IsLongest cs (block 2 604800) ∧
      keepLongestBlock cs = [tag, block 2 604800] ∧
      ∃ before after, [block 2 604800, block 3 604800, block 1 3600, tag] =
          before ++ block 2 604800 :: after ∧
        keepLongestBlock [block 2 604800, block 3 604800, block 1 3600, tag] =
          nonBlocks before ++ block 2 604800 :: nonBlocks after := by
  intro block tag cs
  have single : SingleBlocks cs := by
    unfold SingleBlocks
    decide
  have longest : IsLongest cs (block 2 604800) := (isLongest_iff rfl).mpr (by decide)
  have kept : keepLongestBlock cs = [tag, block 2 604800] := by decide
  refine ⟨single, longest, kept, ?_⟩
  exact (keepLongestBlock_keeps cs).2.2 single (block 2 604800) (by simp [cs]) longest _
    (by decide)

end EditGuard.Execution
