import EditGuard.Proofs.Address.RoundTrip
import EditGuard.Proofs.Consequence.Keys
import Mathlib.Data.List.Induction

/-!
# Identifiers in keys

The key of a group of a throttle tells the filter, the throttle, the group and its identifiers
as they are joined by commas.  Names of users, pages and sites may have commas themselves, so
the joined text tells the identifiers only if no more than one of them is in doubt.
-/

namespace EditGuard

/-! ## Texts without commas -/

theorem comma_notMem_toString_int (n : Int) : ',' ∉ (toString n).toList := by
  cases n with
  | ofNat n => exact notMem_toString_nat rfl n
  | negSucc n =>
      have text : toString (Int.negSucc n) = "-" ++ toString (n + 1) := rfl
      rw [text, String.toList_append, List.mem_append, not_or]
      exact ⟨by decide, notMem_toString_nat rfl _⟩

namespace Address

theorem comma_notMem_toText (a : Address) : ',' ∉ a.toText.toList := by
  intro mem
  cases a.isLetter_toText ',' mem

theorem comma_notMem_networkText (a : Address) (v4Length v6Length : Nat) :
    ',' ∉ (a.networkText v4Length v6Length).toList := by
  obtain ⟨length, text⟩ : ∃ length : Nat, a.networkText v4Length v6Length =
      (a.clearAfter length).toText ++ "/" ++ toString length := ⟨_, rfl⟩
  rw [text, String.toList_append, String.toList_append, List.mem_append, List.mem_append, not_or,
    not_or]
  exact ⟨⟨comma_notMem_toText _, by decide⟩, notMem_toString_nat rfl _⟩

end Address

/-! ## Texts joined by marks -/

section

variable {mark : Char}

/-- What stands after the last mark is told, with what stands before it. -/
theorem append_lastMark_inj {s t rest tail : List Char} (noMark : mark ∉ rest)
    (noMarkOther : mark ∉ tail) (same : s ++ mark :: rest = t ++ mark :: tail) :
    s = t ∧ rest = tail := by
  have backwards := congrArg List.reverse same
  rw [List.reverse_append, List.reverse_append, List.reverse_cons, List.reverse_cons,
    List.append_assoc, List.append_assoc] at backwards
  obtain ⟨ends, starts⟩ := append_mark_inj (mt List.mem_reverse.mp noMark)
    (mt List.mem_reverse.mp noMarkOther) backwards
  exact ⟨List.reverse_inj.mp starts, List.reverse_inj.mp ends⟩

theorem intercalate_cons_of_ne_nil (item : List Char) {items : List (List Char)}
    (more : items ≠ []) :
    [mark].intercalate (item :: items) = item ++ mark :: [mark].intercalate items := by
  obtain ⟨next, items, rfl⟩ := List.exists_cons_of_ne_nil more
  rw [List.intercalate_cons_cons, List.append_assoc, List.singleton_append]

theorem intercalate_concat (first : List Char) (items : List (List Char)) (last : List Char) :
    [mark].intercalate (first :: (items ++ [last])) =
      [mark].intercalate (first :: items) ++ mark :: last := by
  induction items generalizing first with
  | nil =>
      rw [List.nil_append, intercalate_cons_of_ne_nil first (List.cons_ne_nil _ _),
        List.intercalate_singleton, List.intercalate_singleton]
  | cons next items ih =>
      rw [List.cons_append, intercalate_cons_of_ne_nil first (List.cons_ne_nil _ _), ih,
        intercalate_cons_of_ne_nil first (List.cons_ne_nil _ _), List.append_assoc,
        List.cons_append]

/-- A text, and texts without marks after it, are told when they are joined by marks. -/
theorem intercalate_inj_after {x y : List Char} {items others : List (List Char)}
    (lengths : items.length = others.length) (unmarked : ∀ item ∈ items, mark ∉ item)
    (unmarkedToo : ∀ item ∈ others, mark ∉ item)
    (same : [mark].intercalate (x :: items) = [mark].intercalate (y :: others)) :
    x = y ∧ items = others := by
  induction items using List.reverseRecOn generalizing others with
  | nil =>
      cases List.length_eq_zero_iff.mp lengths.symm
      rw [List.intercalate_singleton, List.intercalate_singleton] at same
      exact ⟨same, rfl⟩
  | append_singleton items last ih =>
      cases others using List.reverseRecOn with
      | nil => exact absurd lengths (by rw [List.length_append]; exact Nat.succ_ne_zero _)
      | append_singleton others lastOther =>
          rw [List.length_append, List.length_append] at lengths
          rw [List.forall_mem_append, List.forall_mem_singleton] at unmarked unmarkedToo
          rw [intercalate_concat, intercalate_concat] at same
          obtain ⟨front, rfl⟩ := append_lastMark_inj unmarked.2 unmarkedToo.2 same
          obtain ⟨rfl, rfl⟩ := ih (Nat.add_right_cancel lengths) unmarked.1 unmarkedToo.1 front
          exact ⟨rfl, rfl⟩

/-- Texts of which all but one have no marks are told when they are joined by marks. -/
theorem intercalate_inj {before beforeOther after afterOther : List (List Char)} {x y : List Char}
    (lengths : before.length = beforeOther.length) (lengthsAfter : after.length = afterOther.length)
    (unmarked : ∀ item ∈ before ++ after, mark ∉ item)
    (unmarkedToo : ∀ item ∈ beforeOther ++ afterOther, mark ∉ item)
    (same : [mark].intercalate (before ++ x :: after) =
      [mark].intercalate (beforeOther ++ y :: afterOther)) :
    before = beforeOther ∧ x = y ∧ after = afterOther := by
  induction before generalizing beforeOther with
  | nil =>
      cases List.length_eq_zero_iff.mp lengths.symm
      exact ⟨rfl, intercalate_inj_after lengthsAfter unmarked unmarkedToo same⟩
  | cons item before ih =>
      cases beforeOther with
      | nil => cases lengths
      | cons other beforeOther =>
          have more (front : List (List Char)) (z : List Char) (back : List (List Char)) :
              front ++ z :: back ≠ [] :=
            List.append_ne_nil_of_right_ne_nil _ (List.cons_ne_nil _ _)
          rw [List.cons_append, List.forall_mem_cons] at unmarked unmarkedToo
          rw [List.cons_append, List.cons_append, intercalate_cons_of_ne_nil item (more _ _ _),
            intercalate_cons_of_ne_nil other (more _ _ _)] at same
          obtain ⟨rfl, rest⟩ := append_mark_inj unmarked.1 unmarkedToo.1 same
          obtain ⟨rfl, following⟩ := ih (Nat.succ.inj lengths) unmarked.2 unmarkedToo.2 rest
          exact ⟨rfl, following⟩

end

namespace Throttle

/-! ## Identifiers of groups -/

/-- The parts that a group names. -/
def parts (group : String) : List Part :=
  (Text.pieces ',' group.toList).map fun piece => (part? piece).getD .site

/-- By what a group tells actions apart: the identifiers of its parts, with commas between
them. -/
def joined (settings : Settings) (a : Action) (group : String) : String :=
  ",".intercalate ((parts group).map (identifier settings a))

theorem digested_eq (settings : Settings) (s : Subject) (group : String) :
    digested settings s group = [group, joined settings s.action group] := by
  rw [digested, joined, parts, List.map_map]
  rfl

/-- The identifier of an action may be any text: the name of a user or a page, say, but neither
a number nor an address. -/
def Part.isFree (a : Action) : Part → Bool
  | .address => a.address.isNone
  | .creationDate | .site | .page => true
  | .user | .range | .editCount => false

variable {settings settings' : Settings} {a b : Action}

/-- Only an identifier that may be any text has a comma. -/
theorem comma_notMem_identifier {part : Part} (fixed : part.isFree a = false) :
    ',' ∉ (identifier settings a part).toList := by
  cases part with
  | address =>
      obtain ⟨address, known⟩ := Option.isSome_iff_exists.mp (Option.isNone_eq_false_iff.mp fixed)
      rw [identifier, known]
      exact address.comma_notMem_toText
  | user => exact notMem_toString_nat rfl a.userId
  | range =>
      rw [identifier]
      cases a.address with
      | none => exact List.not_mem_nil
      | some address => exact address.comma_notMem_networkText _ _
  | editCount => exact comma_notMem_toString_int a.editCount
  | _ => cases fixed

/-- Among the identifiers of some parts, those that may be any text have no commas. -/
def Unmarked (settings : Settings) (a : Action) (ps : List Part) : Prop :=
  ∀ part ∈ ps, part.isFree a = true → ',' ∉ (identifier settings a part).toList

theorem Unmarked.notMem {ps : List Part} (unmarked : Unmarked settings a ps) :
    ∀ item ∈ ps.map fun part => (identifier settings a part).toList, ',' ∉ item := by
  intro item mem
  obtain ⟨part, inside, rfl⟩ := List.mem_map.mp mem
  cases free : part.isFree a with
  | true => exact unmarked part inside free
  | false => exact comma_notMem_identifier free

/-- As long as no more than one identifier of a group has a comma, the joined text tells them
all. -/
theorem joined_eq_iff {group : String} {before after : List Part} {part : Part}
    (split : parts group = before ++ part :: after)
    (unmarked : Unmarked settings a (before ++ after))
    (unmarkedToo : Unmarked settings' b (before ++ after)) :
    joined settings a group = joined settings' b group ↔
      ∀ part ∈ parts group, identifier settings a part = identifier settings' b part := by
  have chars (settings : Settings) (c : Action) :
      (joined settings c group).toList = [','].intercalate
        ((before.map fun p => (identifier settings c p).toList) ++
          (identifier settings c part).toList ::
            after.map fun p => (identifier settings c p).toList) := by
    rw [joined, String.toList_intercalate, List.map_map, split, List.map_append, List.map_cons]
    rfl
  constructor
  · intro same
    have sameChars := congrArg String.toList same
    rw [chars, chars] at sameChars
    have notMem := unmarked.notMem
    have notMemToo := unmarkedToo.notMem
    rw [List.map_append] at notMem notMemToo
    obtain ⟨befores, isPart, afters⟩ :=
      intercalate_inj (by simp only [List.length_map]) (by simp only [List.length_map]) notMem
        notMemToo sameChars
    rw [split]
    intro p mem
    rcases List.mem_append.mp mem with inside | inside
    · exact String.toList_inj.mp (List.map_inj_left.mp befores p inside)
    · rcases List.mem_cons.mp inside with rfl | inside
      · exact String.toList_inj.mp isPart
      · exact String.toList_inj.mp (List.map_inj_left.mp afters p inside)
  · intro same
    rw [joined, joined, List.map_inj_left.mpr same]

/-! ## What keys tell -/

theorem length_ofParts (texts : List String) : (Digest.ofParts texts).toList.length = 64 := by
  rw [Digest.ofParts, String.toList_ofList, List.length_flatMap]
  simp only [Digest.length_hexWord]
  rfl

/-- A throttle that some parameters are accepted for. -/
def IsAccepted (t : Throttle) : Prop :=
  ∃ params, ofParams params = .ok t

/-- The messages whose digests are parts of the keys of a throttle. -/
def messages (t : Throttle) (settings : Settings) (s : Subject) : Set (List UInt8) :=
  { message | ∃ group ∈ t.groups, message = Digest.terminated (digested settings s group) }

/-- The key of a group depends on no more than the identifiers as they are joined. -/
theorem key_eq_of_joined_eq {t u : Throttle} {s r : Subject} {group : String}
    (sameFilter : s.filter = r.filter) (sameId : t.id = u.id)
    (sameJoined : joined settings s.action group = joined settings' r.action group) :
    t.key settings s group = u.key settings' r group := by
  apply String.toList_inj.mp
  rw [toList_key, toList_key, sameFilter, sameId, digested_eq, digested_eq, sameJoined]

/-- Without a collision of digests the key of a group tells the filter, the throttle, the group
and its identifiers as they are joined, and nothing else. -/
theorem key_eq_iff {t u : Throttle} (accepted : t.IsAccepted) (acceptedToo : u.IsAccepted)
    {s r : Subject} {known : Set (List UInt8)} (collisionFree : Set.InjOn Digest.sha256 known)
    (inKnown : t.messages settings s ⊆ known) (inKnownToo : u.messages settings' r ⊆ known)
    {group other : String} (first : group ∈ t.groups) (second : other ∈ u.groups) :
    t.key settings s group = u.key settings' r other ↔
      s.filter = r.filter ∧ t.id = u.id ∧ group = other ∧
        joined settings s.action group = joined settings' r.action other := by
  constructor
  · intro same
    have sameFilter := filter_eq_of_key_eq same
    have chars := congrArg String.toList same
    rw [toList_key, toList_key, sameFilter, List.append_cancel_left_eq, List.append_cancel_left_eq,
      List.cons.injEq] at chars
    obtain ⟨ids, ends⟩ := List.append_inj' chars.2 (by
      rw [List.length_cons, List.length_cons, length_ofParts, length_ofParts])
    have digests := Digest.sha256_eq_of_ofParts_eq (String.toList_inj.mp (List.cons.inj ends).2)
    have bytes := collisionFree (inKnown ⟨group, first, rfl⟩) (inKnownToo ⟨other, second, rfl⟩)
      digests
    obtain ⟨params, accepts⟩ := accepted
    obtain ⟨paramsToo, acceptsToo⟩ := acceptedToo
    rw [digested_eq, digested_eq] at bytes
    obtain ⟨groups, rest⟩ := Digest.terminated_cons_inj (zero_notMem_group accepts first)
      (zero_notMem_group acceptsToo second) bytes
    rw [Digest.terminated_cons, Digest.terminated_cons] at rest
    obtain ⟨texts, -⟩ := List.append_inj' rest rfl
    exact ⟨sameFilter, String.toList_inj.mp ids, groups, Digest.toList_toUTF8_inj texts⟩
  · rintro ⟨sameFilter, sameId, rfl, sameJoined⟩
    exact key_eq_of_joined_eq sameFilter sameId sameJoined

end Throttle

end EditGuard
