import EditGuard.Consequence.Execution
import EditGuard.Proofs.Dictionary

/-!
# Which block is placed

Of the blocks of several filters only the longest one is placed; of blocks that last
equally long, the one whose filter comes first.
-/

namespace EditGuard.Execution

/-! ## Which of two blocks is preferred -/

theorem outlasts_trans {a b c : Option Nat} (first : outlasts a b = true)
    (second : outlasts b c = true) : outlasts a c = true := by
  cases a <;> cases b <;> cases c <;> simp [outlasts] at first second ⊢
  omega

theorem eq_of_not_outlasts {a b : Option Nat} (first : outlasts a b = false)
    (second : outlasts b a = false) : a = b := by
  cases a <;> cases b <;> simp [outlasts] at first second ⊢
  omega

theorem outlasts_self (a : Option Nat) : outlasts a a = false := by
  cases a <;> simp [outlasts]

/-- A block is preferred that lasts longer, or as long and its filter comes first. -/
theorem isPreferred_iff {a b : Option Nat × FilterId} :
    isPreferred a b = true ↔
      outlasts a.1 b.1 = true ∨ a.1 = b.1 ∧ compare a.2 b.2 = .lt := by
  rw [isPreferred, Bool.or_eq_true, Bool.and_eq_true, Bool.not_eq_true', beq_iff_eq]
  constructor
  · rintro (longer | ⟨notShorter, earlier⟩)
    · exact .inl longer
    · cases longer : outlasts a.1 b.1 with
      | true => exact .inl rfl
      | false => exact .inr ⟨eq_of_not_outlasts longer notShorter, earlier⟩
  · rintro (longer | ⟨same, earlier⟩)
    · exact .inl longer
    · refine .inr ⟨?_, earlier⟩
      rw [same]
      exact outlasts_self b.1

theorem isPreferred_self (a : Option Nat × FilterId) : isPreferred a a = false := by
  rw [← Bool.not_eq_true, isPreferred_iff]
  rintro (longer | ⟨_, earlier⟩)
  · rw [outlasts_self] at longer
    contradiction
  · exact Dictionary.ne_of_compare_lt earlier rfl

theorem isPreferred_trans {a b c : Option Nat × FilterId} (first : isPreferred a b = true)
    (second : isPreferred b c = true) : isPreferred a c = true := by
  rw [isPreferred_iff] at first second ⊢
  rcases first with longer | ⟨same, earlier⟩
  · rcases second with longer' | ⟨same', _⟩
    · exact .inl (outlasts_trans longer longer')
    · rw [← same']
      exact .inl longer
  · rcases second with longer' | ⟨same', earlier'⟩
    · rw [same]
      exact .inl longer'
    · exact .inr ⟨same.trans same', Std.TransCmp.lt_trans earlier earlier'⟩

theorem isPreferred_asymm {a b : Option Nat × FilterId} (first : isPreferred a b = true) :
    isPreferred b a = false := by
  cases second : isPreferred b a with
  | false => rfl
  | true =>
      have both := isPreferred_trans first second
      rw [isPreferred_self] at both
      contradiction

/-- Of two blocks of different filters one is preferred. -/
theorem isPreferred_of_not {a b : Option Nat × FilterId} (different : a.2 ≠ b.2)
    (not : isPreferred a b = false) : isPreferred b a = true := by
  rw [← Bool.not_eq_true, isPreferred_iff] at not
  rw [isPreferred_iff]
  cases longer : outlasts b.1 a.1 with
  | true => exact .inl rfl
  | false =>
      right
      cases shorter : outlasts a.1 b.1 with
      | true => exact absurd (.inl shorter) not
      | false =>
          have same := eq_of_not_outlasts shorter longer
          refine ⟨same.symm, ?_⟩
          cases order : compare a.2 b.2 with
          | lt => exact absurd (.inr ⟨same, order⟩) not
          | eq => exact absurd (Std.LawfulEqCmp.eq_of_compare order) different
          | gt => exact Std.OrientedCmp.gt_iff_lt.mp order

/-! ## The longest block -/

/-- How long a block lasts, and its filter. -/
def blockKey? (c : Consequence) : Option (Option Nat × FilterId) :=
  (blockLength? c).map fun seconds => (seconds, c.subject.filter)

/-- A block to which no other one is preferred. -/
def Longest (cs : List Consequence) (key : Option Nat × FilterId) : Prop :=
  ∀ d ∈ cs, ∀ other ∈ blockKey? d, isPreferred other key = false

/-- A consequence that is no block, or the longest one. -/
def IsPlaced (cs : List Consequence) (c : Consequence) : Prop :=
  ∀ key ∈ blockKey? c, Longest cs key

instance (cs : List Consequence) (key : Option Nat × FilterId) : Decidable (Longest cs key) :=
  inferInstanceAs
    (Decidable (∀ d ∈ cs, ∀ other ∈ blockKey? d, isPreferred other key = false))

instance (cs : List Consequence) : DecidablePred (IsPlaced cs) :=
  fun c => inferInstanceAs (Decidable (∀ key ∈ blockKey? c, Longest cs key))

theorem longest_cons_of_none {c : Consequence} {cs : List Consequence}
    {key : Option Nat × FilterId} (noBlock : blockKey? c = none) :
    Longest (c :: cs) key ↔ Longest cs key := by
  constructor
  · intro longest d mem
    exact longest d (List.mem_cons_of_mem _ mem)
  · intro longest d mem other isKey
    rcases List.mem_cons.mp mem with rfl | mem
    · rw [noBlock] at isKey
      cases isKey
    · exact longest d mem other isKey

theorem longest_cons_of_some {c : Consequence} {cs : List Consequence}
    {key own : Option Nat × FilterId} (isBlock : blockKey? c = some own) :
    Longest (c :: cs) key ↔ isPreferred own key = false ∧ Longest cs key := by
  constructor
  · intro longest
    exact ⟨longest c List.mem_cons_self own isBlock,
      fun d mem => longest d (List.mem_cons_of_mem _ mem)⟩
  · rintro ⟨notPreferred, longest⟩ d mem other isKey
    rcases List.mem_cons.mp mem with rfl | mem
    · rw [isBlock] at isKey
      cases isKey
      exact notPreferred
    · exact longest d mem other isKey

/-! ## The search for it -/

theorem longestBlock?_cons_of_none {i : Nat} {best : Option (Nat × Option Nat × FilterId)}
    {c : Consequence} {cs : List Consequence} (noBlock : blockKey? c = none) :
    longestBlock? i best (c :: cs) = longestBlock? (i + 1) best cs := by
  rw [blockKey?, Option.map_eq_none_iff] at noBlock
  rw [longestBlock?, noBlock]

theorem longestBlock?_cons_of_some {i : Nat} {best : Option (Nat × Option Nat × FilterId)}
    {c : Consequence} {cs : List Consequence} {key : Option Nat × FilterId}
    (isBlock : blockKey? c = some key) :
    longestBlock? i best (c :: cs) =
      longestBlock? (i + 1)
        (if (best.map fun b => isPreferred key b.2).getD true then some (i, key) else best) cs := by
  obtain ⟨seconds, length, rfl⟩ := Option.map_eq_some_iff.mp isBlock
  rw [longestBlock?, length]

/-- The number that is found is that of the best block before, or a later one. -/
theorem le_of_longestBlock? {cs : List Consequence} {i j m : Nat}
    {key : Option Nat × FilterId} (found : longestBlock? i (some (j, key)) cs = some m) :
    m = j ∨ i ≤ m := by
  induction cs generalizing i j key with
  | nil =>
      cases found
      exact .inl rfl
  | cons c cs ih =>
      cases isBlock : blockKey? c with
      | none =>
          rw [longestBlock?_cons_of_none isBlock] at found
          rcases ih found with same | later
          · exact .inl same
          · exact .inr (by omega)
      | some own =>
          rw [longestBlock?_cons_of_some isBlock] at found
          split at found
          · rcases ih found with same | later
            · exact .inr (by omega)
            · exact .inr (by omega)
          · rcases ih found with same | later
            · exact .inl same
            · exact .inr (by omega)

/-- The best block before is found if and only if no later one is preferred to it. -/
theorem longestBlock?_eq_iff {cs : List Consequence} {i j : Nat} {key : Option Nat × FilterId}
    (before : j < i) : longestBlock? i (some (j, key)) cs = some j ↔ Longest cs key := by
  induction cs generalizing i with
  | nil => exact iff_of_true rfl (fun d mem => by cases mem)
  | cons c cs ih =>
      cases isBlock : blockKey? c with
      | none =>
          rw [longestBlock?_cons_of_none isBlock, longest_cons_of_none isBlock]
          exact ih (by omega)
      | some own =>
          rw [longestBlock?_cons_of_some isBlock, longest_cons_of_some isBlock]
          cases better : isPreferred own key with
          | true =>
              simp only [Option.map_some, Option.getD_some, better, if_true, Bool.true_eq_false,
                false_and, iff_false]
              intro found
              rcases le_of_longestBlock? found with same | later
              · omega
              · omega
          | false =>
              simp only [Option.map_some, Option.getD_some, better, Bool.false_eq_true, if_false,
                true_and]
              exact ih (by omega)

/-! ## What is kept -/

theorem isBlock_iff (c : Consequence) : c.kind = .block ↔ ∃ key, blockKey? c = some key := by
  rcases c with ⟨subject, measure, suppresses⟩
  cases measure with
  | block seconds blocksTalk => exact iff_of_true rfl ⟨_, rfl⟩
  | _ => exact iff_of_false (fun same => by cases same) (by rintro ⟨key, ⟨⟩⟩)

theorem isPlaced_of_ne_block {cs : List Consequence} {c : Consequence} (noBlock : c.kind ≠ .block) :
    IsPlaced cs c :=
  fun key isKey => absurd ((isBlock_iff c).mpr ⟨key, isKey⟩) noBlock

/-- No two blocks are of one filter. -/
def SingleBlocks (cs : List Consequence) : Prop :=
  cs.Pairwise fun c d => ∀ key ∈ blockKey? c, ∀ other ∈ blockKey? d, key.2 ≠ other.2

/-- To be preferred to the best block before and to all later ones. -/
def Overtakes (best : Option (Nat × Option Nat × FilterId)) (cs : List Consequence)
    (c : Consequence) : Prop :=
  ∀ key ∈ blockKey? c, (∀ b ∈ best, isPreferred key b.2 = true) ∧ Longest cs key

instance (best : Option (Nat × Option Nat × FilterId)) (cs : List Consequence) :
    DecidablePred (Overtakes best cs) :=
  fun c => inferInstanceAs
    (Decidable (∀ key ∈ blockKey? c, (∀ b ∈ best, isPreferred key b.2 = true) ∧ Longest cs key))

theorem overtakes_of_none {best : Option (Nat × Option Nat × FilterId)} {cs : List Consequence}
    {c : Consequence} (noBlock : blockKey? c = none) : Overtakes best cs c := by
  intro key isKey
  rw [noBlock] at isKey
  cases isKey

theorem overtakes_of_some {best : Option (Nat × Option Nat × FilterId)} {cs : List Consequence}
    {c : Consequence} {own : Option Nat × FilterId} (isBlock : blockKey? c = some own) :
    Overtakes best cs c ↔ (∀ b ∈ best, isPreferred own b.2 = true) ∧ Longest cs own := by
  constructor
  · intro overtakes
    exact overtakes own isBlock
  · intro overtakes key isKey
    rw [isBlock] at isKey
    cases isKey
    exact overtakes

/-- A block that is not preferred to the best one before does not matter. -/
theorem overtakes_cons_of_worse {best : Nat × Option Nat × FilterId} {cs : List Consequence}
    {c d : Consequence} {own : Option Nat × FilterId} (isBlock : blockKey? c = some own)
    (worse : isPreferred own best.2 = false) :
    Overtakes (some best) (c :: cs) d ↔ Overtakes (some best) cs d := by
  refine forall_congr' fun key => imp_congr_right fun _ => ?_
  rw [longest_cons_of_some isBlock]
  constructor
  · rintro ⟨better, _, longest⟩
    exact ⟨better, longest⟩
  · rintro ⟨better, longest⟩
    refine ⟨better, ?_, longest⟩
    rw [← Bool.not_eq_true]
    intro preferred
    have overtaken := isPreferred_trans preferred (better best rfl)
    rw [worse] at overtaken
    contradiction

/-- A block that is preferred to the best one before takes its place. -/
theorem overtakes_cons_of_better {best : Option (Nat × Option Nat × FilterId)} {i : Nat}
    {cs : List Consequence} {c d : Consequence} {own : Option Nat × FilterId}
    (isBlock : blockKey? c = some own) (better : ∀ b ∈ best, isPreferred own b.2 = true)
    (distinct : ∀ other ∈ blockKey? d, own.2 ≠ other.2) :
    Overtakes best (c :: cs) d ↔ Overtakes (some (i, own)) cs d := by
  refine forall_congr' fun key => imp_congr_right fun isKey => ?_
  rw [longest_cons_of_some isBlock]
  constructor
  · rintro ⟨_, notPreferred, longest⟩
    refine ⟨?_, longest⟩
    rintro b ⟨⟩
    exact isPreferred_of_not (distinct key isKey) notPreferred
  · rintro ⟨preferred, longest⟩
    have overtaken : isPreferred key own = true := preferred (i, own) rfl
    exact ⟨fun b mem => isPreferred_trans overtaken (better b mem), isPreferred_asymm overtaken,
      longest⟩

theorem filter_overtakes_cons_of_none {best : Option (Nat × Option Nat × FilterId)}
    {cs : List Consequence} {c : Consequence} (noBlock : blockKey? c = none) :
    (c :: cs).filter (Overtakes best (c :: cs) ·) = c :: cs.filter (Overtakes best cs ·) := by
  have kept : Overtakes best (c :: cs) c := overtakes_of_none noBlock
  have same : cs.filter (Overtakes best (c :: cs) ·) = cs.filter (Overtakes best cs ·) := by
    refine List.filter_congr fun d _ => decide_eq_decide.mpr ?_
    refine forall_congr' fun key => imp_congr_right fun _ => ?_
    rw [longest_cons_of_none noBlock]
  rw [List.filter_cons, if_pos (decide_eq_true kept), same]

theorem filter_overtakes_cons_of_worse {best : Nat × Option Nat × FilterId}
    {cs : List Consequence} {c : Consequence} {own : Option Nat × FilterId}
    (isBlock : blockKey? c = some own) (worse : isPreferred own best.2 = false) :
    (c :: cs).filter (Overtakes (some best) (c :: cs) ·) =
      cs.filter (Overtakes (some best) cs ·) := by
  have dropped : ¬ Overtakes (some best) (c :: cs) c := by
    intro kept
    have better := ((overtakes_of_some isBlock).mp kept).1 best rfl
    rw [worse] at better
    contradiction
  have same : cs.filter (Overtakes (some best) (c :: cs) ·) =
      cs.filter (Overtakes (some best) cs ·) :=
    List.filter_congr fun d _ => decide_eq_decide.mpr (overtakes_cons_of_worse isBlock worse)
  rw [List.filter_cons, if_neg fun kept => dropped (of_decide_eq_true kept), same]

theorem filter_overtakes_cons_of_better {best : Option (Nat × Option Nat × FilterId)} (i : Nat)
    {cs : List Consequence} {c : Consequence} {own : Option Nat × FilterId}
    (isBlock : blockKey? c = some own) (better : ∀ b ∈ best, isPreferred own b.2 = true)
    (distinct : ∀ d ∈ cs, ∀ other ∈ blockKey? d, own.2 ≠ other.2) :
    (c :: cs).filter (Overtakes best (c :: cs) ·) =
      if Longest cs own then c :: cs.filter (Overtakes (some (i, own)) cs ·)
      else cs.filter (Overtakes (some (i, own)) cs ·) := by
  have same : cs.filter (Overtakes best (c :: cs) ·) =
      cs.filter (Overtakes (some (i, own)) cs ·) := by
    refine List.filter_congr fun d mem => decide_eq_decide.mpr ?_
    exact overtakes_cons_of_better isBlock better (distinct d mem)
  have isKept : Overtakes best (c :: cs) c ↔ Longest cs own := by
    rw [overtakes_of_some isBlock, longest_cons_of_some isBlock, isPreferred_self]
    exact ⟨fun kept => kept.2.2, fun longest => ⟨better, rfl, longest⟩⟩
  rw [List.filter_cons, same]
  by_cases longest : Longest cs own
  · rw [if_pos longest, if_pos (decide_eq_true (isKept.mpr longest))]
  · rw [if_neg longest, if_neg fun kept => longest (isKept.mp (of_decide_eq_true kept))]

theorem dropOtherBlocks_cons_of_none {chosen : Option Nat} {i : Nat} {c : Consequence}
    {cs : List Consequence} (noBlock : blockKey? c = none) :
    dropOtherBlocks chosen i (c :: cs) = c :: dropOtherBlocks chosen (i + 1) cs := by
  have plain : ¬ c.kind = .block := by
    rw [isBlock_iff, noBlock]
    rintro ⟨key, ⟨⟩⟩
  rw [dropOtherBlocks, if_neg fun dropped => plain dropped.1]

theorem dropOtherBlocks_cons_of_some {chosen : Option Nat} {i : Nat} {c : Consequence}
    {cs : List Consequence} {key : Option Nat × FilterId} (isBlock : blockKey? c = some key) :
    dropOtherBlocks chosen i (c :: cs) =
      if chosen = some i then c :: dropOtherBlocks chosen (i + 1) cs
      else dropOtherBlocks chosen (i + 1) cs := by
  have blocks : c.kind = .block := (isBlock_iff c).mpr ⟨key, isBlock⟩
  rw [dropOtherBlocks]
  by_cases isChosen : chosen = some i
  · rw [if_neg fun dropped => dropped.2 isChosen, if_pos isChosen]
  · rw [if_pos ⟨blocks, isChosen⟩, if_neg isChosen]

/-- Of the blocks from some number on, the one is kept that is preferred to the best one
before and to the others. -/
theorem dropOtherBlocks_longestBlock? {cs : List Consequence} (single : SingleBlocks cs) {i : Nat}
    {best : Option (Nat × Option Nat × FilterId)} (before : ∀ b ∈ best, b.1 < i) :
    dropOtherBlocks (longestBlock? i best cs) i cs = cs.filter (Overtakes best cs ·) := by
  induction cs generalizing i best with
  | nil => rfl
  | cons c cs ih =>
      obtain ⟨distinct, single⟩ := List.pairwise_cons.mp single
      have later : ∀ b ∈ best, b.1 < i + 1 := fun b mem => Nat.lt_succ_of_lt (before b mem)
      cases isBlock : blockKey? c with
      | none =>
          rw [longestBlock?_cons_of_none isBlock, dropOtherBlocks_cons_of_none isBlock,
            ih single later, filter_overtakes_cons_of_none isBlock]
      | some own =>
          rw [longestBlock?_cons_of_some isBlock, dropOtherBlocks_cons_of_some isBlock]
          by_cases better : ∀ b ∈ best, isPreferred own b.2 = true
          · have taken : (best.map fun b => isPreferred own b.2).getD true = true := by
              cases best with
              | none => rfl
              | some b => exact better b rfl
            have first : ∀ b ∈ some (i, own), b.1 < i + 1 := by
              rintro b ⟨⟩
              exact Nat.lt_succ_self i
            rw [if_pos taken, ih single first,
              filter_overtakes_cons_of_better i isBlock better
                fun d mem => distinct d mem own isBlock]
            simp only [longestBlock?_eq_iff (Nat.lt_succ_self i)]
          · obtain ⟨b, isBest, worse⟩ : ∃ b ∈ best, isPreferred own b.2 = false := by
              refine Classical.byContradiction fun none => better fun b mem => ?_
              rw [← Bool.not_eq_false]
              exact fun worse => none ⟨b, mem, worse⟩
            cases isBest
            have notFound : longestBlock? (i + 1) (some b) cs ≠ some i := by
              intro found
              have early : b.1 < i := before b rfl
              rcases le_of_longestBlock? found with same | late
              · omega
              · omega
            simp only [Option.map_some, Option.getD_some, worse, Bool.false_eq_true, if_false]
            rw [if_neg notFound, ih single later, filter_overtakes_cons_of_worse isBlock worse]

/-- What is no block is kept, and the longest block. -/
theorem keepLongestBlock_eq {cs : List Consequence} (single : SingleBlocks cs) :
    keepLongestBlock cs = cs.filter (IsPlaced cs ·) := by
  have noneBefore : ∀ b ∈ (none : Option (Nat × Option Nat × FilterId)), b.1 < 0 := by
    rintro b ⟨⟩
  rw [keepLongestBlock, dropOtherBlocks_longestBlock? single noneBefore]
  refine List.filter_congr fun c _ => decide_eq_decide.mpr ?_
  refine forall_congr' fun key => imp_congr_right fun _ => ?_
  exact ⟨fun kept => kept.2, fun longest => ⟨by rintro b ⟨⟩, longest⟩⟩

/-! ## That a block is kept -/

/-- If there is a block, then one is chosen. -/
theorem exists_longestBlock? {cs : List Consequence} {i : Nat}
    {best : Option (Nat × Option Nat × FilterId)}
    (some_block : best ≠ none ∨ ∃ c ∈ cs, c.kind = .block) :
    ∃ m, longestBlock? i best cs = some m := by
  induction cs generalizing i best with
  | nil =>
      obtain ⟨b, isBest⟩ : ∃ b, best = some b := by
        rcases some_block with isBest | ⟨c, mem, -⟩
        · exact Option.ne_none_iff_exists'.mp isBest
        · cases mem
      exact ⟨b.1, by rw [isBest]; rfl⟩
  | cons c cs ih =>
      cases isBlock : blockKey? c with
      | none =>
          rw [longestBlock?_cons_of_none isBlock]
          refine ih (some_block.imp_right ?_)
          rintro ⟨d, mem, blocks⟩
          rcases List.mem_cons.mp mem with rfl | mem
          · obtain ⟨key, found⟩ := (isBlock_iff d).mp blocks
            rw [isBlock] at found
            cases found
          · exact ⟨d, mem, blocks⟩
      | some own =>
          rw [longestBlock?_cons_of_some isBlock]
          refine ih (.inl ?_)
          cases best with
          | none => nofun
          | some b => split <;> nofun

/-- The block that is chosen is the best one before, or it is kept. -/
theorem mem_dropOtherBlocks_of_longestBlock? {cs : List Consequence} {i m : Nat}
    {best : Option (Nat × Option Nat × FilterId)} (chosen : longestBlock? i best cs = some m) :
    best.map Prod.fst = some m ∨ ∃ c ∈ dropOtherBlocks (some m) i cs, c.kind = .block := by
  induction cs generalizing i best with
  | nil => exact .inl chosen
  | cons c cs ih =>
      cases isBlock : blockKey? c with
      | none =>
          rw [longestBlock?_cons_of_none isBlock] at chosen
          rw [dropOtherBlocks_cons_of_none isBlock]
          refine (ih chosen).imp_right ?_
          rintro ⟨d, mem, blocks⟩
          exact ⟨d, List.mem_cons_of_mem _ mem, blocks⟩
      | some own =>
          rw [longestBlock?_cons_of_some isBlock] at chosen
          rw [dropOtherBlocks_cons_of_some isBlock]
          rcases ih chosen with before | ⟨d, mem, blocks⟩
          · split at before
            · have here : i = m := Option.some.inj before
              rw [if_pos (by rw [here])]
              exact .inr ⟨c, List.mem_cons_self, (isBlock_iff c).mpr ⟨own, isBlock⟩⟩
            · exact .inl before
          · refine .inr ⟨d, ?_, blocks⟩
            split
            · exact List.mem_cons_of_mem _ mem
            · exact mem

/-- Of several blocks one is kept. -/
theorem exists_block_keepLongestBlock {cs : List Consequence}
    (some_block : ∃ c ∈ cs, c.kind = .block) : ∃ c ∈ keepLongestBlock cs, c.kind = .block := by
  obtain ⟨m, chosen⟩ := exists_longestBlock? (i := 0) (.inr some_block)
  rw [keepLongestBlock, chosen]
  exact (mem_dropOtherBlocks_of_longestBlock? chosen).resolve_left nofun

/-- What is no block is kept. -/
theorem mem_dropOtherBlocks {chosen : Option Nat} {cs : List Consequence} {i : Nat}
    {c : Consequence} (mem : c ∈ cs) (plain : c.kind ≠ .block) :
    c ∈ dropOtherBlocks chosen i cs := by
  induction cs generalizing i with
  | nil => cases mem
  | cons d cs ih =>
      rw [dropOtherBlocks]
      rcases List.mem_cons.mp mem with rfl | mem
      · rw [if_neg fun dropped => plain dropped.1]
        exact List.mem_cons_self
      · split
        · exact ih mem
        · exact List.mem_cons_of_mem _ (ih mem)

end EditGuard.Execution
