import EditGuard.Address
import EditGuard.Proofs.Decimal.Digits
import EditGuard.Proofs.Splitting
import Mathlib.Data.List.Basic
import Mathlib.Data.List.TakeWhile
import Mathlib.Tactic.NormNum

/-!
# Reading the texts of addresses

The canonical text of an address, in front of whatever cannot belong to an address, is read as
that address, however strictly.  Numbers and groups are read one by one; a row of zero groups
that is left out is put back where it was, since the groups on both sides of it are known.
-/

namespace EditGuard.Address

variable {spelling : Spelling} {rest : List Char}

/-! ## Short addresses -/

theorem naturalOf_toDigits (n : Nat) : Decimal.naturalOf (Nat.toDigits 10 n) = n :=
  Nat.ofDigitChars_ten_toDigits

theorem octet?_toString {n : Nat} (small : n < 256) (ends : ∀ c ∈ rest.head?, c.isDigit = false) :
    octet? spelling ((toString n).toList ++ rest) = some (n, rest) := by
  have taken := (takeWhile_append_eq (isDigit_toDigits n) ends).1
  have short : ¬3 < (Nat.toDigits 10 n).length := by
    rw [Nat.not_lt, Nat.length_toDigits_le_iff (by decide) (by decide)]
    omega
  have notEmpty : (Nat.toDigits 10 n).isEmpty = false := by simp
  have plain : (decide (1 < (Nat.toDigits 10 n).length) &&
      (Nat.toDigits 10 n).head? == some '0') = false := by
    rcases Nat.eq_zero_or_pos n with rfl | positive
    · rfl
    · simp [head?_toDigits_ne positive]
  have inRange : ¬255 < n := by omega
  rw [toList_toString_nat, octet?, taken, naturalOf_toDigits, List.drop_left, notEmpty, plain]
  simp [short, inRange]

theorem after?_cons (mark : Char) (cs : List Char) : after? mark (mark :: cs) = some cs :=
  if_pos rfl

/-- The four numbers of a short address. -/
theorem toList_shortText (bits : BitVec 32) :
    (shortText bits).toList =
      (toString (bits.toNat >>> 24)).toList ++ '.' ::
        ((toString (bits.toNat >>> 16 % 256)).toList ++ '.' ::
          ((toString (bits.toNat >>> 8 % 256)).toList ++ '.' ::
            (toString (bits.toNat % 256)).toList)) := by
  simp [shortText, String.intercalate_cons_cons]

theorem short?_shortText (bits : BitVec 32) (ends : ∀ c ∈ rest.head?, c.isDigit = false) :
    short? spelling ((shortText bits).toList ++ rest) = some (bits, rest) := by
  have bound := bits.isLt
  have point (cs : List Char) : ∀ c ∈ ('.' :: cs).head?, c.isDigit = false := by
    rintro _ ⟨⟩
    rfl
  have first : bits.toNat >>> 24 < 256 := by
    rw [Nat.shiftRight_eq_div_pow]
    omega
  have number : ((bits.toNat >>> 24 * 256 + bits.toNat >>> 16 % 256) * 256 +
      bits.toNat >>> 8 % 256) * 256 + bits.toNat % 256 = bits.toNat := by
    simp only [Nat.shiftRight_eq_div_pow]
    omega
  rw [toList_shortText, short?]
  simp only [List.append_assoc, List.cons_append, octet?_toString first (point _),
    octet?_toString (Nat.mod_lt _ (by decide)) (point _),
    octet?_toString (Nat.mod_lt _ (by decide)) ends, after?_cons, Option.bind_eq_bind,
    Option.bind_some, number, BitVec.ofNat_toNat, BitVec.setWidth_eq]
  rfl

theorem rest_of_octet? {cs : List Char} {n : Nat} (read : octet? spelling cs = some (n, rest)) :
    rest = cs.dropWhile Char.isDigit := by
  have parts : cs.takeWhile Char.isDigit ++ cs.dropWhile Char.isDigit = cs :=
    List.takeWhile_append_dropWhile
  have behind : cs.drop (cs.takeWhile Char.isDigit).length = cs.dropWhile Char.isDigit :=
    (congrArg (List.drop _) parts).symm.trans List.drop_left
  rw [octet?] at read
  split_ifs at read
  rw [← behind]
  exact (Prod.mk.inj (Option.some.inj read)).2.symm

theorem after?_eq_none {mark : Char} {cs : List Char} (other : cs.head? ≠ some mark) :
    after? mark cs = none := by
  cases cs with
  | nil => rfl
  | cons c cs =>
      refine if_neg ?_
      rintro rfl
      exact other rfl

/-- Digits that no point follows are no short address. -/
theorem short?_eq_none {cs : List Char} (noPoint : (cs.dropWhile Char.isDigit).head? ≠ some '.') :
    short? spelling cs = none := by
  cases read : octet? spelling cs with
  | none => rw [short?, read, Option.bind_eq_bind, Option.bind_none]
  | some result =>
      obtain ⟨n, rest⟩ := result
      rw [← rest_of_octet? read] at noPoint
      rw [short?, read]
      simp [after?_eq_none noPoint]

/-! ## Groups -/

theorem hexValue?_digitChar : ∀ d < 16, Text.hexValue? d.digitChar = some d := by
  decide

theorem isHexDigit_digitChar {d : Nat} (small : d < 16) : Text.isHexDigit d.digitChar = true := by
  rw [Text.isHexDigit, hexValue?_digitChar d small]
  rfl

theorem isHexDigit_toDigits (n : Nat) : ∀ c ∈ Nat.toDigits 16 n, Text.isHexDigit c = true := by
  induction n using Nat.base_induction 16 (by decide) with
  | single d small =>
      rw [Nat.toDigits_of_lt_base small]
      exact List.forall_mem_singleton.mpr (isHexDigit_digitChar small)
  | digit n d small positive ih =>
      rw [← Nat.toDigits_append_toDigits (by decide) positive small, Nat.toDigits_of_lt_base small]
      exact List.forall_mem_append.mpr
        ⟨ih, List.forall_mem_singleton.mpr (isHexDigit_digitChar small)⟩

/-- The hexadecimal digits of a number have its value. -/
theorem ofDigitValues_toDigits (n : Nat) :
    Text.ofDigitValues 16 ((Nat.toDigits 16 n).filterMap Text.hexValue?) = n := by
  induction n using Nat.base_induction 16 (by decide) with
  | single d small =>
      rw [Nat.toDigits_of_lt_base small]
      simp [hexValue?_digitChar d small, Text.ofDigitValues]
  | digit n d small positive ih =>
      rw [← Nat.toDigits_append_toDigits (by decide) positive small, Nat.toDigits_of_lt_base small]
      rw [Text.ofDigitValues] at ih ⊢
      simp [hexValue?_digitChar d small, ih]

/-- What may come after a group: neither another digit of it, nor the point of a short
address. -/
def EndsGroup (rest : List Char) : Prop :=
  ∀ c ∈ rest.head?, Text.isHexDigit c = false ∧ c ≠ '.'

theorem group?_toDigits {g : Nat} (small : g < 0x10000) (ends : EndsGroup rest) :
    group? (Nat.toDigits 16 g ++ rest) = some (g, rest) := by
  have taken := (takeWhile_append_eq (isHexDigit_toDigits g) fun c mem => (ends c mem).1).1
  have short : ¬4 < (Nat.toDigits 16 g).length := by
    rw [Nat.not_lt, Nat.length_toDigits_le_iff (by decide) (by decide)]
    exact small
  have notEmpty : (Nat.toDigits 16 g).isEmpty = false := by simp
  rw [group?, taken, notEmpty, ofDigitValues_toDigits, List.drop_left]
  simp [short]

theorem isDigit_eq_false {c : Char} (other : Text.isHexDigit c = false) : c.isDigit = false := by
  by_contra digit
  rw [Bool.not_eq_false] at digit
  rw [Text.isHexDigit, Text.hexValue?_of_isDigit digit] at other
  cases other

theorem dropWhile_isDigit (ends : EndsGroup rest) : rest.dropWhile Char.isDigit = rest := by
  cases rest with
  | nil => rfl
  | cons c cs => exact List.dropWhile_cons_of_neg (by simp [isDigit_eq_false (ends c rfl).1])

theorem EndsGroup.noPoint (ends : EndsGroup rest) : rest.head? ≠ some '.' :=
  fun point => (ends '.' point).2 rfl

theorem short?_of_endsGroup (ends : EndsGroup rest) : short? spelling rest = none := by
  apply short?_eq_none
  rw [dropWhile_isDigit ends]
  exact ends.noPoint

/-- A group is not the beginning of a short address. -/
theorem short?_toDigits (g : Nat) (ends : EndsGroup rest) :
    short? spelling (Nat.toDigits 16 g ++ rest) = none := by
  apply short?_eq_none
  intro point
  rw [List.dropWhile_append] at point
  split_ifs at point with decimal
  · rw [dropWhile_isDigit ends] at point
    exact ends.noPoint point
  · have mem : '.' ∈ (Nat.toDigits 16 g).dropWhile Char.isDigit := by
      rw [List.head?_append_of_ne_nil _ (mt List.isEmpty_iff.mpr decimal)] at point
      exact List.mem_of_mem_head? point
    have hexadecimal := isHexDigit_toDigits g '.' ((List.dropWhile_sublist _).subset mem)
    cases hexadecimal

theorem group?_eq_none (ends : EndsGroup rest) : group? rest = none := by
  have noDigit : rest.takeWhile Text.isHexDigit = [] :=
    (takeWhile_append_eq (List.forall_mem_nil _) fun c mem => (ends c mem).1).1
  rw [group?, noDigit]
  rfl

/-! ## Rows of groups -/

/-- The groups after the first one, each with its colon. -/
def laterGroups (gs : List Nat) : List Char :=
  gs.flatMap fun g => ':' :: Nat.toDigits 16 g

theorem toList_groupsText (g : Nat) (gs : List Nat) :
    (groupsText (g :: gs)).toList = Nat.toDigits 16 g ++ laterGroups gs := by
  induction gs generalizing g with
  | nil => simp [groupsText, laterGroups]
  | cons next gs ih =>
      have later := ih next
      rw [groupsText, List.map_cons] at later ⊢
      rw [List.map_cons, String.intercalate_cons_cons]
      simp only [String.toList_append, String.toList_ofList, later]
      simp [laterGroups]

/-- No group is read, whether it were the first one or not. -/
def Stops (spelling : Spelling) (rest : List Char) : Prop :=
  ∀ first count, groups spelling first count rest = ⟨[], false, rest⟩

/-- A row of groups ends before what is no group, also when a colon stands between. -/
theorem stops_of_endsGroup (ends : EndsGroup rest)
    (colon : ∀ more, after? ':' rest = some more → EndsGroup more) : Stops spelling rest := by
  have nothing (more : List Char) (ends : EndsGroup more) :
      short? spelling more = none ∧ group? more = none :=
    ⟨short?_of_endsGroup ends, group?_eq_none ends⟩
  intro first count
  obtain _ | count := count
  · rfl
  · rw [groups]
    cases first with
    | true => simp [nothing rest ends]
    | false =>
        cases next : after? ':' rest with
        | none => simp
        | some more => simp [nothing more (colon more next)]

/-- What may come after an address. -/
def EndsAddress (rest : List Char) : Prop :=
  EndsGroup rest ∧ rest.head? ≠ some ':'

theorem EndsAddress.stops (ends : EndsAddress rest) : Stops spelling rest := by
  apply stops_of_endsGroup ends.1
  rw [after?_eq_none ends.2]
  rintro _ ⟨⟩

theorem endsGroup_colon (cs : List Char) : EndsGroup (':' :: cs) := by
  rintro _ ⟨⟩
  decide

theorem stops_gap (cs : List Char) : Stops spelling (':' :: ':' :: cs) := by
  apply stops_of_endsGroup (endsGroup_colon _)
  rintro _ ⟨⟩
  exact endsGroup_colon cs

theorem endsGroup_laterGroups (gs : List Nat) (ends : EndsGroup rest) :
    EndsGroup (laterGroups gs ++ rest) := by
  cases gs with
  | nil => exact ends
  | cons g gs => exact endsGroup_colon _

/-- One more group in front of what is read already. -/
def Groups.cons (g : Nat) (more : Groups) : Groups :=
  ⟨g :: more.groups, more.endsShort, more.rest⟩

theorem groups_first {g : Nat} (small : g < 0x10000) (ends : EndsGroup rest) (count : Nat) :
    groups spelling true (count + 1) (Nat.toDigits 16 g ++ rest) =
      (groups spelling false count rest).cons g := by
  rw [groups]
  simp only [if_true, short?_toDigits g ends, group?_toDigits small ends, ite_self]
  rfl

theorem groups_later {g : Nat} (small : g < 0x10000) (ends : EndsGroup rest) (count : Nat) :
    groups spelling false (count + 1) (':' :: (Nat.toDigits 16 g ++ rest)) =
      (groups spelling false count rest).cons g := by
  rw [groups]
  simp only [Bool.false_eq_true, if_false, after?_cons, short?_toDigits g ends,
    group?_toDigits small ends, ite_self]
  rfl

theorem groups_laterGroups {gs : List Nat} (small : ∀ g ∈ gs, g < 0x10000)
    (stops : Stops spelling rest) (ends : EndsGroup rest) {count : Nat}
    (enough : gs.length ≤ count) :
    groups spelling false count (laterGroups gs ++ rest) = ⟨gs, false, rest⟩ := by
  induction gs generalizing count with
  | nil => exact stops false count
  | cons g gs ih =>
      rw [List.forall_mem_cons] at small
      obtain _ | count := count
      · cases enough
      · have text : laterGroups (g :: gs) ++ rest =
            ':' :: (Nat.toDigits 16 g ++ (laterGroups gs ++ rest)) := by
          simp [laterGroups]
        rw [text, groups_later small.1 (endsGroup_laterGroups gs ends),
          ih small.2 (Nat.le_of_succ_le_succ enough)]
        rfl

/-- A row of groups is read up to where no group follows. -/
theorem groups_groupsText {gs : List Nat} (small : ∀ g ∈ gs, g < 0x10000)
    (stops : Stops spelling rest) (ends : EndsGroup rest) {count : Nat}
    (enough : gs.length ≤ count) :
    groups spelling true count ((groupsText gs).toList ++ rest) = ⟨gs, false, rest⟩ := by
  cases gs with
  | nil => exact stops true count
  | cons g gs =>
      rw [List.forall_mem_cons] at small
      obtain _ | count := count
      · cases enough
      · rw [toList_groupsText, List.append_assoc,
          groups_first small.1 (endsGroup_laterGroups gs ends),
          groups_laterGroups small.2 stops ends (Nat.le_of_succ_le_succ enough)]
        rfl

/-! ## Long addresses -/

theorem long?_groupsText {gs : List Nat} (small : ∀ g ∈ gs, g < 0x10000) (eight : gs.length = 8)
    (ends : EndsAddress rest) :
    long? spelling ((groupsText gs).toList ++ rest) = some (ofGroups gs, rest) := by
  unfold long?
  rw [groups_groupsText small ends.stops ends.1 (Nat.le_of_eq eight)]
  exact if_pos eight

/-- Zero groups that are left out are put back. -/
theorem long?_gap {before after : List Nat} {zeros : Nat} (smallBefore : ∀ g ∈ before, g < 0x10000)
    (smallAfter : ∀ g ∈ after, g < 0x10000) (positive : 0 < zeros)
    (eight : before.length + zeros + after.length = 8) (ends : EndsAddress rest) :
    long? spelling ((groupsText before).toList ++ ':' :: ':' ::
      ((groupsText after).toList ++ rest)) =
        some (ofGroups (before ++ List.replicate zeros 0 ++ after), rest) := by
  have head : groups spelling true 8 ((groupsText before).toList ++ ':' :: ':' ::
      ((groupsText after).toList ++ rest)) =
        ⟨before, false, ':' :: ':' :: ((groupsText after).toList ++ rest)⟩ :=
    groups_groupsText smallBefore (stops_gap _) (endsGroup_colon _) (by omega)
  have tail (spelling : Spelling) {count : Nat} (enough : after.length ≤ count) :
      groups spelling true count ((groupsText after).toList ++ rest) = ⟨after, false, rest⟩ :=
    groups_groupsText smallAfter ends.stops ends.1 enough
  have notEight : before.length ≠ 8 := by omega
  have gap : 8 - before.length - after.length = zeros := by omega
  have strict : after.length ≤ 7 - before.length := by omega
  have lenient : after.length ≤ 8 - before.length := by omega
  unfold long?
  rw [head]
  cases spelling with
  | strict => simp [notEight, tail .strict strict, gap]
  | lenient => simp [notEight, tail .lenient lenient, gap]

theorem groups_shortText (bits : BitVec 32) {count : Nat} (positive : 0 < count)
    (ends : ∀ c ∈ rest.head?, c.isDigit = false) :
    groups spelling false (count + 1) (':' :: ((shortText bits).toList ++ rest)) =
      ⟨[bits.toNat / 0x10000, bits.toNat % 0x10000], true, rest⟩ := by
  rw [groups]
  simp only [Bool.false_eq_true, if_false, after?_cons, if_pos positive, short?_shortText bits ends]

/-- An address that stands for a short one. -/
theorem long?_shortText (bits : BitVec 32) (ends : ∀ c ∈ rest.head?, c.isDigit = false) :
    long? spelling (':' :: ':' ::
      (Nat.toDigits 16 0xffff ++ ':' :: ((shortText bits).toList ++ rest))) =
        some (ofGroups [0, 0, 0, 0, 0, 0xffff, bits.toNat / 0x10000, bits.toNat % 0x10000],
          rest) := by
  have tail (spelling : Spelling) (count : Nat) :
      groups spelling true (count + 3)
        (Nat.toDigits 16 0xffff ++ ':' :: ((shortText bits).toList ++ rest)) =
          ⟨[0xffff, bits.toNat / 0x10000, bits.toNat % 0x10000], true, rest⟩ := by
    rw [groups_first (by decide) (endsGroup_colon _), groups_shortText bits (by simp) ends]
    rfl
  unfold long?
  rw [stops_gap _ true 8]
  cases spelling with
  | strict => simp [tail .strict 4, List.replicate]
  | lenient => simp [tail .lenient 5, List.replicate]

/-! ## The row that is left out -/

theorem toGroups_eq (bits : BitVec 128) :
    toGroups bits = [bits.toNat >>> 112 % 0x10000, bits.toNat >>> 96 % 0x10000,
      bits.toNat >>> 80 % 0x10000, bits.toNat >>> 64 % 0x10000, bits.toNat >>> 48 % 0x10000,
      bits.toNat >>> 32 % 0x10000, bits.toNat >>> 16 % 0x10000, bits.toNat >>> 0 % 0x10000] :=
  rfl

theorem lt_of_mem_toGroups {bits : BitVec 128} : ∀ g ∈ toGroups bits, g < 0x10000 := by
  intro g mem
  obtain ⟨i, -, rfl⟩ := List.mem_map.mp mem
  exact Nat.mod_lt _ (by decide)

theorem ofGroups_toGroups (bits : BitVec 128) : ofGroups (toGroups bits) = bits := by
  have bound := bits.isLt
  rw [ofGroups, toGroups_eq]
  apply BitVec.eq_of_toNat_eq
  rw [BitVec.toNat_ofNat]
  simp only [Text.ofDigitValues, List.foldl_cons, List.foldl_nil, Nat.shiftRight_eq_div_pow]
  generalize bits.toNat = n at bound ⊢
  norm_num at bound ⊢
  omega

/-- The longest row of zeros is one, and begins where it is said to begin. -/
theorem longestZeros_eq (start : Nat) (gs : List Nat) :
    ∃ before after, gs = before ++ List.replicate (longestZeros start gs).2 0 ++ after ∧
      (longestZeros start gs).1 = start + before.length := by
  induction gs generalizing start with
  | nil => exact ⟨[], [], rfl, rfl⟩
  | cons g gs ih =>
      rw [longestZeros]
      split_ifs with here
      · refine ⟨[], (g :: gs).dropWhile (· == 0), ?_, rfl⟩
        have zeros : (g :: gs).takeWhile (· == 0) =
            List.replicate ((g :: gs).takeWhile (· == 0)).length 0 :=
          List.eq_replicate_iff.mpr ⟨rfl, fun z mem => by simpa using List.mem_takeWhile_imp mem⟩
        rw [List.nil_append, ← zeros, List.takeWhile_append_dropWhile]
      · obtain ⟨before, after, parts, begins⟩ := ih (start + 1)
        refine ⟨g :: before, after, ?_, ?_⟩
        · rw [List.cons_append, List.cons_append, ← parts]
        · rw [begins, List.length_cons]
          omega

/-- Groups without the longest row of zeros are read with it. -/
theorem long?_longestZeros {gs : List Nat} (small : ∀ g ∈ gs, g < 0x10000)
    (eight : gs.length = 8) (positive : 0 < (longestZeros 0 gs).2) (ends : EndsAddress rest) :
    long? spelling ((groupsText (gs.take (longestZeros 0 gs).1) ++ "::" ++
      groupsText (gs.drop ((longestZeros 0 gs).1 + (longestZeros 0 gs).2))).toList ++ rest) =
        some (ofGroups gs, rest) := by
  obtain ⟨before, after, parts, begins⟩ := longestZeros_eq 0 gs
  generalize (longestZeros 0 gs).1 = start, (longestZeros 0 gs).2 = zeros at *
  obtain rfl : start = before.length := by rw [begins, Nat.zero_add]
  subst parts
  have lengths : before.length + zeros + after.length = 8 := by
    simpa [Nat.add_assoc] using eight
  have first : (before ++ List.replicate zeros 0 ++ after).take before.length = before := by
    rw [List.append_assoc, List.take_left]
  have last : (before ++ List.replicate zeros 0 ++ after).drop (before.length + zeros) =
      after := List.drop_left' (by simp)
  have text : (groupsText before ++ "::" ++ groupsText after).toList ++ rest =
      (groupsText before).toList ++ ':' :: ':' :: ((groupsText after).toList ++ rest) := by
    simp
  rw [first, last, text]
  refine long?_gap (fun g mem => small g ?_) (fun g mem => small g ?_) positive lengths ends
  · simp [mem]
  · simp [mem]

/-! ## Reading back -/

/-- The last two groups of an address are the short address in it. -/
theorem toGroups_of_take {bits : BitVec 128} {gs : List Nat} (six : (toGroups bits).take 6 = gs) :
    toGroups bits = gs ++ [(bits.truncate 32).toNat / 0x10000,
      (bits.truncate 32).toNat % 0x10000] := by
  have parts := List.take_append_drop 6 (toGroups bits)
  rw [six] at parts
  rw [← parts, toGroups_eq, BitVec.truncate, BitVec.toNat_setWidth]
  simp only [List.drop_succ_cons, List.drop_zero, Nat.shiftRight_eq_div_pow]
  congr 2
  · omega
  · congr 1
    omega

theorem long?_longText (bits : BitVec 128) (ends : EndsAddress rest) :
    long? spelling ((longText bits).toList ++ rest) = some (bits, rest) := by
  rw [longText]
  simp only
  split_ifs with isShort gap
  · have text : ("::ffff:" ++ shortText (bits.truncate 32)).toList ++ rest = ':' :: ':' ::
        (Nat.toDigits 16 0xffff ++ ':' :: ((shortText (bits.truncate 32)).toList ++ rest)) := by
      rw [String.toList_append, List.append_assoc]
      rfl
    have noDigit : ∀ c ∈ rest.head?, c.isDigit = false :=
      fun c mem => isDigit_eq_false (ends.1 c mem).1
    have whole := ofGroups_toGroups bits
    rw [toGroups_of_take isShort] at whole
    rw [text, long?_shortText _ noDigit]
    exact congrArg (fun bits => some (bits, rest)) whole
  · rw [long?_longestZeros lt_of_mem_toGroups rfl (Nat.lt_of_succ_lt gap) ends,
      ofGroups_toGroups]
  · rw [long?_groupsText lt_of_mem_toGroups rfl ends, ofGroups_toGroups]

theorem short?_groupsText (gs : List Nat) (ends : EndsGroup rest) :
    short? spelling ((groupsText gs).toList ++ rest) = none := by
  cases gs with
  | nil => exact short?_of_endsGroup ends
  | cons g gs =>
      rw [toList_groupsText, List.append_assoc]
      exact short?_toDigits g (endsGroup_laterGroups gs ends)

/-- A long text begins with a group or with a colon, but with no short address. -/
theorem short?_longText (bits : BitVec 128) (ends : EndsAddress rest) :
    short? spelling ((longText bits).toList ++ rest) = none := by
  have colon (cs : List Char) : short? spelling (':' :: cs) = none :=
    short?_of_endsGroup (endsGroup_colon cs)
  rw [longText]
  simp only
  split_ifs with isShort gap
  · rw [String.toList_append]
    exact colon _
  · rw [String.toList_append, String.toList_append, List.append_assoc, List.append_assoc]
    exact short?_groupsText _ (endsGroup_colon _)
  · exact short?_groupsText _ ends.1

/-- The canonical text of an address is read back, also in front of what cannot belong to an
address. -/
theorem scan?_toText (a : Address) (ends : EndsAddress rest) :
    scan? spelling (a.toText.toList ++ rest) = some (a, rest) := by
  cases a with
  | v4 bits =>
      have noDigit : ∀ c ∈ rest.head?, c.isDigit = false :=
        fun c mem => isDigit_eq_false (ends.1 c mem).1
      rw [scan?, toText, short?_shortText bits noDigit]
  | v6 bits =>
      rw [scan?, toText, short?_longText bits ends, long?_longText bits ends]
      rfl

theorem scan?_toText_end (a : Address) : scan? spelling a.toText.toList = some (a, []) := by
  have ends : EndsAddress [] := ⟨by rintro _ ⟨⟩, by rintro ⟨⟩⟩
  have read : scan? spelling (a.toText.toList ++ []) = some (a, []) := scan?_toText a ends
  rwa [List.append_nil] at read

/-- The canonical text of an address is read as that address. -/
theorem parse?_toText (a : Address) : parse? a.toText = some a := by
  rw [parse?, scan?_toText_end]

/-! ## The characters of addresses -/

/-- The characters that texts of addresses have. -/
def isLetter (c : Char) : Bool :=
  Text.isHexDigit c || c == '.' || c == ':'

theorem isLetter_of_isHexDigit {c : Char} (digit : Text.isHexDigit c = true) :
    isLetter c = true := by
  rw [isLetter, digit, Bool.true_or, Bool.true_or]

theorem isLetter_toString (n : Nat) : ∀ c ∈ (toString n).toList, isLetter c = true := by
  intro c mem
  rw [toList_toString_nat] at mem
  apply isLetter_of_isHexDigit
  rw [Text.isHexDigit, Text.hexValue?_of_isDigit (isDigit_toDigits n c mem)]
  rfl

theorem isLetter_shortText (bits : BitVec 32) :
    ∀ c ∈ (shortText bits).toList, isLetter c = true := by
  rw [toList_shortText]
  simp only [List.forall_mem_append, List.forall_mem_cons]
  exact ⟨isLetter_toString _, rfl, isLetter_toString _, rfl, isLetter_toString _, rfl,
    isLetter_toString _⟩

theorem isLetter_groupsText (gs : List Nat) : ∀ c ∈ (groupsText gs).toList, isLetter c = true := by
  have digits (g : Nat) : ∀ c ∈ Nat.toDigits 16 g, isLetter c = true :=
    fun c mem => isLetter_of_isHexDigit (isHexDigit_toDigits g c mem)
  cases gs with
  | nil => exact List.forall_mem_nil _
  | cons g gs =>
      rw [toList_groupsText]
      refine List.forall_mem_append.mpr ⟨digits g, fun c mem => ?_⟩
      obtain ⟨next, -, mem⟩ := List.mem_flatMap.mp mem
      have group : ∀ c ∈ ':' :: Nat.toDigits 16 next, isLetter c = true :=
        List.forall_mem_cons.mpr ⟨rfl, digits next⟩
      exact group c mem

theorem isLetter_toText (a : Address) : ∀ c ∈ a.toText.toList, isLetter c = true := by
  cases a with
  | v4 bits => exact isLetter_shortText bits
  | v6 bits =>
      rw [toText, longText]
      simp only
      split_ifs with isShort gap
      · rw [String.toList_append]
        exact List.forall_mem_append.mpr ⟨List.all_eq_true.mp rfl, isLetter_shortText _⟩
      · rw [String.toList_append, String.toList_append]
        exact List.forall_mem_append.mpr ⟨List.forall_mem_append.mpr
          ⟨isLetter_groupsText _, List.all_eq_true.mp rfl⟩, isLetter_groupsText _⟩
      · exact isLetter_groupsText _

end EditGuard.Address
