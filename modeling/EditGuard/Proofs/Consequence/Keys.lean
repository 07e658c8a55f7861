import EditGuard.Consequence
import EditGuard.Proofs.Decimal.Digits
import EditGuard.Proofs.Digest
import EditGuard.Proofs.FilterId
import EditGuard.Proofs.Stateful
import Mathlib.Data.List.TakeWhile
import Mathlib.Data.Set.Function

/-!
# Keys of counters and flags

The key of a throttle tells its filter and, as long as digests do not collide, its group.  The
flag of a warning of a local filter tells the page and the filter.
-/

namespace EditGuard

/-! ## Marks in keys -/

/-- What stands before a mark is told, with what follows it, if the mark is not part of it. -/
theorem append_mark_inj {mark : Char} {s t rest tail : List Char} (noMark : mark ∉ s)
    (noMarkOther : mark ∉ t) (same : s ++ mark :: rest = t ++ mark :: tail) :
    s = t ∧ rest = tail := by
  have other {u : List Char} (noMark : mark ∉ u) : ∀ c ∈ u, (c != mark) = true := by
    intro c mem
    rw [bne_iff_ne]
    rintro rfl
    exact noMark mem
  have ends (more : List Char) : ∀ c ∈ (mark :: more).head?, (c != mark) = false := by
    rintro c ⟨⟩
    exact bne_self_eq_false mark
  obtain ⟨first, after⟩ :=
    append_inj_of_kind (other noMark) (other noMarkOther) (ends rest) (ends tail) same
  exact ⟨first, (List.cons.inj after).2⟩

theorem FilterId.colon_notMem_text (id : FilterId) : ':' ∉ id.text.toList := by
  rcases id with ⟨isGlobal, n⟩
  have digits : ':' ∉ (toString n).toList := notMem_toString_nat rfl n
  cases isGlobal with
  | false => exact digits
  | true =>
      have text : FilterId.text ⟨true, n⟩ = "global-" ++ toString n := rfl
      rw [text, String.toList_append, List.mem_append, not_or]
      exact ⟨by decide, digits⟩

/-! ## Groups of throttles -/

namespace Text

theorem exists_mem_pieces {mark c : Char} {cs : List Char} (mem : c ∈ cs) (other : c ≠ mark) :
    ∃ piece ∈ pieces mark cs, c ∈ piece := by
  induction cs with
  | nil => cases mem
  | cons d cs ih =>
      rw [pieces]
      rcases List.mem_cons.mp mem with rfl | mem
      · rw [if_neg other]
        split
        · exact ⟨[c], List.mem_cons_self, List.mem_cons_self⟩
        · exact ⟨_, List.mem_cons_self, List.mem_cons_self⟩
      · obtain ⟨piece, isPiece, inside⟩ := ih mem
        split
        · exact ⟨piece, List.mem_cons_of_mem _ isPiece, inside⟩
        · split
          · rename_i nothing
            rw [nothing] at isPiece
            cases isPiece
          · rename_i first rest split
            rw [split] at isPiece
            rcases List.mem_cons.mp isPiece with rfl | isPiece
            · exact ⟨_, List.mem_cons_self, List.mem_cons_of_mem _ inside⟩
            · exact ⟨piece, List.mem_cons_of_mem _ isPiece, inside⟩

theorem mem_dropWhile_isBlank {c : Char} {cs : List Char} (mem : c ∈ cs)
    (notBlank : isBlank c = false) : c ∈ cs.dropWhile isBlank := by
  rw [← List.takeWhile_append_dropWhile (p := isBlank) (l := cs)] at mem
  rcases List.mem_append.mp mem with dropped | mem
  · have blank := List.mem_takeWhile_imp dropped
    rw [notBlank] at blank
    contradiction
  · exact mem

/-- Nothing but blanks is dropped at the ends. -/
theorem mem_trim {c : Char} {cs : List Char} (mem : c ∈ cs) (notBlank : isBlank c = false) :
    c ∈ trim cs := by
  rw [trim, List.mem_reverse]
  refine mem_dropWhile_isBlank ?_ notBlank
  rw [List.mem_reverse]
  exact mem_dropWhile_isBlank mem notBlank

end Text

namespace Throttle

theorem zero_notMem_piece {piece : List Char} (isPart : (part? piece).isSome) :
    '\x00' ∉ piece := by
  intro mem
  obtain ⟨part, named⟩ := Option.isSome_iff_exists.mp isPart
  obtain ⟨before, after, split, -⟩ := List.lookup_eq_some_iff.mp named
  have inNames : (String.ofList (Text.trim piece), part) ∈ Part.names := by
    rw [split]
    exact List.mem_append_right _ List.mem_cons_self
  have noZero : ∀ entry ∈ Part.names, '\x00' ∉ entry.1.toList := by decide
  have trimmed := noZero _ inNames
  rw [String.toList_ofList] at trimmed
  exact trimmed (Text.mem_trim mem rfl)

/-- No group of a throttle has a zero character. -/
theorem zero_notMem_group {params : List String} {t : Throttle} (accepted : ofParams params = .ok t)
    {group : String} (mem : group ∈ t.groups) : '\x00' ∉ group.toList := by
  unfold ofParams at accepted
  split at accepted
  · rename_i id rate groups
    obtain ⟨⟨count, seconds⟩, -, rest⟩ := exists_of_bind_eq_ok accepted
    dsimp only at rest
    split at rest
    · cases rest
    · split at rest
      · cases rest
      · rename_i known
        cases rest
        intro zero
        have noMark : '\x00' ≠ ',' := by decide
        obtain ⟨piece, isPiece, inside⟩ := Text.exists_mem_pieces zero noMark
        have noneUnknown : unknownPart? group = none := List.findSome?_eq_none_iff.mp known group mem
        rw [unknownPart?, Option.map_eq_none_iff, List.find?_eq_none] at noneUnknown
        have isPart := noneUnknown piece isPiece
        rw [Bool.not_eq_true, Option.isNone_eq_false_iff] at isPart
        exact zero_notMem_piece isPart inside
  · cases accepted

/-! ## Keys of throttles -/

/-- The texts whose digest is part of the key of a group. -/
def digested (settings : Settings) (s : Subject) (group : String) : List String :=
  [group, ",".intercalate ((Text.pieces ',' group.toList).map fun piece =>
    identifier settings s.action ((part? piece).getD .site))]

theorem toList_key (t : Throttle) (settings : Settings) (s : Subject) (group : String) :
    (t.key settings s group).toList = "abusefilter:throttle:".toList ++
      (s.filter.text.toList ++ ':' ::
        (t.id.toList ++ ':' :: (Digest.ofParts (digested settings s group)).toList)) := by
  have text : t.key settings s group = "abusefilter:throttle:" ++ s.filter.text ++ ":" ++ t.id ++
      ":" ++ Digest.ofParts (digested settings s group) := rfl
  rw [text]
  simp only [String.toList_append, List.append_assoc]
  rfl

/-- The throttles of different filters have different keys. -/
theorem filter_eq_of_key_eq {t u : Throttle} {settings settings' : Settings} {s r : Subject}
    {group other : String} (same : t.key settings s group = u.key settings' r other) :
    s.filter = r.filter := by
  have chars := congrArg String.toList same
  rw [toList_key, toList_key, List.append_cancel_left_eq] at chars
  obtain ⟨texts, -⟩ :=
    append_mark_inj (FilterId.colon_notMem_text _) (FilterId.colon_notMem_text _) chars
  exact FilterId.text_inj (String.toList_inj.mp texts)

theorem key_ne_promotionKey (t : Throttle) (settings : Settings) (s : Subject) (group : String)
    (userId : Nat) : t.key settings s group ≠ Consequence.promotionKey userId := by
  intro same
  have chars := congrArg String.toList same
  have promotion : (Consequence.promotionKey userId).toList =
      "abusefilter-block-autopromote:".toList ++ (toString userId).toList := String.toList_append
  rw [toList_key, promotion] at chars
  have twelfth := congrArg (·[11]?) chars
  rw [List.getElem?_append_left (by decide), List.getElem?_append_left (by decide)] at twelfth
  revert twelfth
  decide

/-- As long as digests do not collide, the keys of a throttle tell its groups. -/
theorem group_eq_of_key_eq {params : List String} {t : Throttle} (accepted : ofParams params = .ok t)
    {settings settings' : Settings} {messages : Set (List UInt8)}
    (collisionFree : Set.InjOn Digest.sha256 messages) {s r : Subject} {group other : String}
    (first : group ∈ t.groups) (second : other ∈ t.groups)
    (inMessages : Digest.terminated (digested settings s group) ∈ messages)
    (inMessagesToo : Digest.terminated (digested settings' r other) ∈ messages)
    (same : t.key settings s group = t.key settings' r other) : group = other := by
  have sameFilter := filter_eq_of_key_eq same
  have chars := congrArg String.toList same
  rw [toList_key, toList_key, sameFilter, List.append_cancel_left_eq, List.append_cancel_left_eq,
    List.cons.injEq, List.append_cancel_left_eq, List.cons.injEq] at chars
  have digests := Digest.sha256_eq_of_ofParts_eq (String.toList_inj.mp chars.2.2)
  have bytes := collisionFree inMessages inMessagesToo digests
  exact (Digest.terminated_cons_inj (zero_notMem_group accepted first)
    (zero_notMem_group accepted second) bytes).1

end Throttle

/-! ## Flags of warnings -/

/-- The flag of the warning of a filter about a page. -/
def warnedFlag (page : String) (id : FilterId) : String :=
  s!"abusefilter-warned-{page}-{id.text}"

theorem Consequence.warnedKey_eq (s : Subject) : warnedKey s = warnedFlag s.action.page s.filter :=
  rfl

theorem toList_warnedFlag (page : String) (id : FilterId) :
    (warnedFlag page id).toList =
      "abusefilter-warned-".toList ++ (page.toList ++ '-' :: id.text.toList) := by
  have text : warnedFlag page id = "abusefilter-warned-" ++ page ++ "-" ++ id.text := rfl
  rw [text]
  simp only [String.toList_append, List.append_assoc]
  rfl

/-- The flag of a warning of a local filter tells the page and the filter. -/
theorem warnedFlag_inj {page page' : String} {id id' : FilterId} (isLocal : id.isGlobal = false)
    (isLocalToo : id'.isGlobal = false) (same : warnedFlag page id = warnedFlag page' id') :
    page = page' ∧ id = id' := by
  have noMark {id : FilterId} (isLocal : id.isGlobal = false) : '-' ∉ id.text.toList.reverse := by
    rw [List.mem_reverse, FilterId.text, isLocal]
    exact notMem_toString_nat rfl id.number
  have chars := congrArg String.toList same
  rw [toList_warnedFlag, toList_warnedFlag, List.append_cancel_left_eq] at chars
  -- the filter stands after the last mark, for pages may have marks
  have backwards := congrArg List.reverse chars
  rw [List.reverse_append, List.reverse_append, List.reverse_cons, List.reverse_cons,
    List.append_assoc, List.append_assoc] at backwards
  obtain ⟨texts, pages⟩ := append_mark_inj (noMark isLocal) (noMark isLocalToo) backwards
  exact ⟨String.toList_inj.mp (List.reverse_inj.mp pages),
    FilterId.text_inj (String.toList_inj.mp (List.reverse_inj.mp texts))⟩

end EditGuard
