import EditGuard.Function
import EditGuard.Proofs.Function.Substring
import EditGuard.Proofs.Number.Arithmetic

/-!
# Positions in words and bytes

Positions in texts count characters and may be any 64-bit integers, while a text is cut between
bytes.  The functions on parts and positions can be computed in words of 64 bits and with byte
offsets: no sum of positions leaves the range, and all offsets are between two characters.
-/

namespace EditGuard.Function

open Number (Fits)

/-! ## Index arithmetic -/

/-- The sum of two words, unless it is out of range. -/
def addExactly? (a b : Int64) : Option Int64 :=
  if Fits (a.toInt + b.toInt) then some (a + b) else none

/-- The sum of two words, or the end of the range beyond which it is. -/
def addWithin (a b : Int64) : Int64 :=
  if Fits (a.toInt + b.toInt) then a + b
  else if a.toInt + b.toInt < 0 then Int64.minValue
  else Int64.maxValue

/-- A position that may count from the end, if negative. -/
def positionFromEnd? (length position : Int64) : Option Int64 :=
  if position < 0 then addExactly? length position else some position

/-- Where a part of a text begins.  No place is before the text. -/
def firstOf? (length position : Int64) : Option Int64 :=
  (positionFromEnd? length position).map fun first => if first < 0 then 0 else first

/-- Where the part of a text of a given length ends, or of all but a length if it is negative. -/
def stopOf? (n start : Int64) : Option Int64 → Option Int64
  | none => some n
  | some length =>
      if length < 0 then addExactly? n length
      else some (if n < addWithin start length then n else addWithin start length)

/-- The number of bytes before a character, or of all bytes. -/
def bytesBefore (s : String) (i : Nat) : Nat :=
  (String.ofList (s.toList.take i)).utf8ByteSize

/-- The part of a text between two byte offsets, if they are in order and each of them is between
two characters or at an end. -/
def slice? (s : String) (first stop : Nat) : Option String :=
  if inside : String.Pos.Raw.IsValid s ⟨first⟩ ∧ String.Pos.Raw.IsValid s ⟨stop⟩ ∧ first ≤ stop then
    some (String.extract (s.pos ⟨first⟩ inside.1) (s.pos ⟨stop⟩ inside.2.1))
  else none

/-- The part of a text from a position, up to the end or of a given length. -/
def substringInBytes? (s : String) (start : Int64) (length? : Option Int64) :
    Option String := do
  let n := Int64.ofNat s.length
  let start ← firstOf? n start
  if n ≤ start then return ""
  else
    let stop ← stopOf? n start length?
    if stop ≤ start then return ""
    else slice? s (bytesBefore s start.toInt.toNat) (bytesBefore s stop.toInt.toNat)

/-- The position of the first occurrence of a text that is not empty from an offset on, or minus
one. -/
def positionInBytes? (hay needle : String) (offset : Int64) : Option Int64 := do
  let n := Int64.ofNat hay.length
  let offset ← positionFromEnd? n offset
  if offset < 0 ∨ n < offset then return -1
  else
    let first := bytesBefore hay offset.toInt.toNat
    let rest ← slice? hay first hay.utf8ByteSize
    match Text.find? needle.toList rest.toList with
    | none => return -1
    | some i =>
        let passed ← slice? hay first (first + bytesBefore rest i)
        addExactly? offset (Int64.ofNat passed.length)

/-! ## Words -/

theorem negative_iff {a : Int64} : a < 0 ↔ a.toInt < 0 := by
  rw [Int64.lt_iff_toInt_lt, Int64.toInt_zero]

theorem toInt_add {a b : Int64} (fits : Fits (a.toInt + b.toInt)) :
    (a + b).toInt = a.toInt + b.toInt := by
  obtain ⟨least, most⟩ := fits
  rw [Int64.toInt_add, Int.bmod_eq_of_le]
  · exact least
  · exact most

theorem exists_addExactly? {a b : Int64} (fits : Fits (a.toInt + b.toInt)) :
    ∃ c, addExactly? a b = some c ∧ c.toInt = a.toInt + b.toInt :=
  ⟨a + b, if_pos fits, toInt_add fits⟩

/-- A sum of words of both signs is in range. -/
theorem exists_addExactly?_of_negative {a b : Int64} (notNegative : 0 ≤ a.toInt)
    (negative : b < 0) : ∃ c, addExactly? a b = some c ∧ c.toInt = a.toInt + b.toInt := by
  rw [negative_iff] at negative
  have := Number.fits_toInt a
  have := Number.fits_toInt b
  apply exists_addExactly?
  unfold Fits at *
  omega

/-- A position from the end is in range. -/
theorem exists_positionFromEnd? {length : Int64} (notNegative : 0 ≤ length.toInt)
    (position : Int64) :
    ∃ c, positionFromEnd? length position = some c ∧
      c.toInt = fromEnd length.toInt position.toInt := by
  rw [positionFromEnd?, fromEnd]
  by_cases negative : position < 0
  · rw [if_pos negative, if_pos (negative_iff.mp negative)]
    exact exists_addExactly?_of_negative notNegative negative
  · rw [if_neg negative, if_neg (mt negative_iff.mpr negative)]
    exact ⟨position, rfl, rfl⟩

/-- The beginning of a part is in range. -/
theorem exists_firstOf? {length : Int64} (notNegative : 0 ≤ length.toInt) (position : Int64) :
    ∃ c, firstOf? length position = some c ∧
      c.toInt = max 0 (fromEnd length.toInt position.toInt) := by
  obtain ⟨c, isPosition, same⟩ := exists_positionFromEnd? notNegative position
  rw [firstOf?, isPosition, Option.map_some, ← same]
  refine ⟨_, rfl, ?_⟩
  split_ifs with negative
  · rw [negative_iff] at negative
    rw [Int64.toInt_zero]
    omega
  · rw [negative_iff] at negative
    omega

/-- A sum that is cut off at the end of the range is not below what was added to, so the least of
it and a word is right. -/
theorem toInt_min_addWithin {a b n : Int64} (notNegative : 0 ≤ b.toInt) :
    (if n < addWithin a b then n else addWithin a b).toInt = min (a.toInt + b.toInt) n.toInt := by
  have := Number.fits_toInt a
  have := Number.fits_toInt b
  have := Number.fits_toInt n
  have sum : (addWithin a b).toInt = min (a.toInt + b.toInt) 0x7FFFFFFFFFFFFFFF := by
    unfold addWithin
    split_ifs with fits beyond
    · rw [toInt_add fits]
      unfold Fits at *
      omega
    · unfold Fits at *
      omega
    · rw [Int64.toInt_maxValue]
      unfold Fits at *
      omega
  split_ifs with less
  · rw [Int64.lt_iff_toInt_lt] at less
    unfold Fits at *
    omega
  · rw [Int64.lt_iff_toInt_lt] at less
    unfold Fits at *
    omega

/-- The end of a part is in range. -/
theorem exists_stopOf? {n : Int64} (notNegative : 0 ≤ n.toInt) (start : Int64)
    (length? : Option Int64) :
    ∃ c, stopOf? n start length? = some c ∧
      c.toInt = match length? with
        | none => n.toInt
        | some length =>
            if length.toInt < 0 then n.toInt + length.toInt
            else min (start.toInt + length.toInt) n.toInt := by
  cases length? with
  | none => exact ⟨n, rfl, rfl⟩
  | some length =>
      dsimp only [stopOf?]
      by_cases negative : length < 0
      · rw [if_pos negative, if_pos (negative_iff.mp negative)]
        exact exists_addExactly?_of_negative notNegative negative
      · have notNegative := mt negative_iff.mpr negative
        rw [if_neg negative, if_neg notNegative]
        exact ⟨_, rfl, toInt_min_addWithin (Int.not_lt.mp notNegative)⟩

/-! ## Bytes -/

/-- Whether a text is of a size that memory can hold. -/
def Addressable (s : String) : Prop :=
  s.utf8ByteSize < 0x8000000000000000

theorem length_le_utf8ByteSize (cs : List Char) :
    cs.length ≤ (String.ofList cs).utf8ByteSize := by
  induction cs with
  | nil => exact Nat.zero_le _
  | cons c cs ih =>
      rw [String.ofList_cons, String.utf8ByteSize_append, String.utf8ByteSize_singleton,
        List.length_cons]
      have := c.utf8Size_pos
      omega

theorem Addressable.length_lt {s : String} (addressable : Addressable s) :
    s.length < 0x8000000000000000 := by
  have := length_le_utf8ByteSize s.toList
  rw [String.ofList_toList, String.length_toList] at this
  exact Nat.lt_of_le_of_lt this addressable

theorem Addressable.toInt_length {s : String} (addressable : Addressable s) :
    (Int64.ofNat s.length).toInt = s.length :=
  Int64.toInt_ofNat_of_lt addressable.length_lt

/-- Two beginnings of a text cut out what is between their ends. -/
theorem slice?_append (before middle after : String) :
    slice? (before ++ middle ++ after) before.utf8ByteSize (before ++ middle).utf8ByteSize =
      some middle := by
  have first : String.Pos.Raw.IsValid (before ++ middle ++ after) ⟨before.utf8ByteSize⟩ :=
    String.Pos.Raw.isValid_iff_exists_append.mpr
      ⟨before, middle ++ after, String.append_assoc, rfl⟩
  have stop : String.Pos.Raw.IsValid (before ++ middle ++ after)
      ⟨(before ++ middle).utf8ByteSize⟩ :=
    String.Pos.Raw.isValid_iff_exists_append.mpr ⟨before ++ middle, after, rfl, rfl⟩
  have order : before.utf8ByteSize ≤ (before ++ middle).utf8ByteSize := by
    rw [String.utf8ByteSize_append]
    exact Nat.le_add_right _ _
  rw [slice?, dif_pos ⟨first, stop, order⟩]
  congr 1
  rw [← String.toByteArray_inj, String.toByteArray_extract]
  rw [String.offset_pos, String.offset_pos, String.toByteArray_append,
    ← String.size_toByteArray, ← String.size_toByteArray, ByteArray.extract_append_size_left]
  rw [String.toByteArray_append, ByteArray.size_append]
  exact ByteArray.extract_append_eq_right rfl rfl

/-- The bytes before two characters cut out the characters from the one to the other. -/
theorem slice?_bytesBefore (s : String) {i j : Nat} (order : i ≤ j) :
    slice? s (bytesBefore s i) (bytesBefore s j) =
      some (String.ofList ((s.toList.drop i).take (j - i))) := by
  let before := String.ofList (s.toList.take i)
  let middle := String.ofList ((s.toList.drop i).take (j - i))
  let after := String.ofList (s.toList.drop j)
  have upTo : before ++ middle = String.ofList (s.toList.take j) := by
    rw [← String.ofList_append, ← List.take_add, Nat.add_sub_cancel' order]
  have whole : before ++ middle ++ after = s := by
    rw [upTo, ← String.ofList_append, List.take_append_drop, String.ofList_toList]
  have cut := slice?_append before middle after
  rwa [whole, upTo] at cut

theorem bytesBefore_length (s : String) : bytesBefore s s.length = s.utf8ByteSize := by
  rw [bytesBefore, ← String.length_toList, List.take_length, String.ofList_toList]

/-- The bytes before a character and all bytes cut out the characters from there on. -/
theorem slice?_bytes_end (s : String) {i : Nat} (inside : i ≤ s.length) :
    slice? s (bytesBefore s i) s.utf8ByteSize = some (String.ofList (s.toList.drop i)) := by
  rw [← bytesBefore_length, slice?_bytesBefore s inside, List.take_of_length_le]
  rw [List.length_drop, String.length_toList]

/-- The bytes before a character of what follows another one are those between the two. -/
theorem bytesBefore_add (s : String) (i j : Nat) :
    bytesBefore s i + bytesBefore (String.ofList (s.toList.drop i)) j = bytesBefore s (i + j) := by
  rw [bytesBefore, bytesBefore, bytesBefore, ← String.utf8ByteSize_append, ← String.ofList_append,
    String.toList_ofList, List.take_add]

/-! ## Parts and positions -/

/-- Parts of texts are right when they are computed in words and bytes. -/
theorem substringInBytes?_eq {s : String} (addressable : Addressable s) (start : Int64)
    (length? : Option Int64) :
    substringInBytes? s start length? =
      some (String.ofList (substringOf s.toList start.toInt (length?.map Int64.toInt))) := by
  have size := addressable.toInt_length
  have notNegative : 0 ≤ (Int64.ofNat s.length).toInt := by omega
  obtain ⟨first, isFirst, firstInt⟩ := exists_firstOf? notNegative start
  obtain ⟨stop, isStop, stopInt⟩ := exists_stopOf? notNegative first length?
  rw [size] at firstInt stopInt
  have part : substringOf s.toList start.toInt (length?.map Int64.toInt) =
      (s.toList.drop first.toInt.toNat).take (stop.toInt - first.toInt).toNat := by
    rw [firstInt] at stopInt
    rw [← String.length_toList] at stopInt firstInt
    cases length? with
    | none => simp only [stopInt, firstInt, substringOf, Option.map_none]
    | some length => simp only [stopInt, firstInt, substringOf, Option.map_some]
  have empty (outside : s.length ≤ first.toInt ∨ stop.toInt ≤ first.toInt) :
      (s.toList.drop first.toInt.toNat).take (stop.toInt - first.toInt).toNat = [] := by
    rw [List.take_eq_nil_iff, List.drop_eq_nil_iff, String.length_toList]
    omega
  rw [substringInBytes?, part]
  simp only [isFirst, isStop, Option.bind_eq_bind, Option.bind_some]
  by_cases behind : Int64.ofNat s.length ≤ first
  · rw [if_pos behind]
    rw [Int64.le_iff_toInt_le, size] at behind
    rw [empty (.inl behind)]
    rfl
  by_cases before : stop ≤ first
  · rw [if_neg behind, if_pos before]
    rw [Int64.le_iff_toInt_le] at before
    rw [empty (.inr before)]
    rfl
  · rw [if_neg behind, if_neg before]
    rw [Int64.le_iff_toInt_le] at before
    have length : (stop.toInt - first.toInt).toNat = stop.toInt.toNat - first.toInt.toNat := by
      omega
    rw [slice?_bytesBefore s (by omega), length]

/-- Positions of texts are right when they are computed in words and bytes. -/
theorem positionInBytes?_eq {hay needle : String} (addressable : Addressable hay)
    (notEmpty : needle ≠ "") (offset : Int64) :
    ∃ result, positionInBytes? hay needle offset = some result ∧
      result.toInt = match positionIn? hay.toList needle.toList offset.toInt with
        | some i => i
        | none => -1 := by
  have size := addressable.toInt_length
  have notNegative : 0 ≤ (Int64.ofNat hay.length).toInt := by omega
  obtain ⟨first, isFirst, firstInt⟩ := exists_positionFromEnd? notNegative offset
  rw [size, ← String.length_toList] at firstInt
  have someChar : needle.toList ≠ [] := mt String.toList_eq_nil_iff.mp notEmpty
  rw [positionInBytes?]
  simp only [isFirst, Option.bind_eq_bind, Option.bind_some]
  by_cases outside : first < 0 ∨ Int64.ofNat hay.length < first
  · rw [if_pos outside]
    rw [negative_iff, Int64.lt_iff_toInt_lt, size, firstInt, ← String.length_toList] at outside
    have absent : ¬InText hay.toList (fromEnd hay.toList.length offset.toInt) := by
      rw [InText]
      omega
    rw [positionIn?_of_not_inText absent]
    exact ⟨-1, rfl, rfl⟩
  · rw [if_neg outside]
    rw [negative_iff, Int64.lt_iff_toInt_lt, size, firstInt, ← String.length_toList] at outside
    have inside : InText hay.toList (fromEnd hay.toList.length offset.toInt) := by
      rw [InText]
      omega
    have cut : first.toInt.toNat = cutAt hay.toList offset.toInt := by rw [firstInt, cutAt]
    have within : first.toInt.toNat ≤ hay.length := by
      rw [← String.length_toList]
      omega
    rw [positionIn?_of_inText someChar inside, ← cut, slice?_bytes_end hay within]
    simp only [Option.bind_some, String.toList_ofList]
    cases found : Text.find? needle.toList (hay.toList.drop first.toInt.toNat) with
    | none => exact ⟨-1, rfl, rfl⟩
    | some k =>
        have occurs := ((Text.find?_eq_some_iff someChar).mp found).1.add_length_le someChar
        simp only [List.length_drop, String.length_toList] at occurs
        have passed : ((hay.toList.drop first.toInt.toNat).take k).length = k := by
          rw [List.length_take, List.length_drop, String.length_toList]
          omega
        have short := addressable.length_lt
        have word : (Int64.ofNat k).toInt = k := Int64.toInt_ofNat_of_lt (by omega)
        have fits : Fits (first.toInt + (Int64.ofNat k).toInt) := by
          rw [word, Fits]
          omega
        obtain ⟨sum, isSum, sumInt⟩ := exists_addExactly? fits
        dsimp only
        rw [bytesBefore_add, slice?_bytesBefore hay (Nat.le_add_right _ _), Option.bind_some,
          Nat.add_sub_cancel_left, String.length_ofList, passed, isSum]
        refine ⟨sum, rfl, ?_⟩
        have start : ((first.toInt.toNat : Nat) : Int) = first.toInt :=
          Int.toNat_of_nonneg (by omega)
        rw [sumInt, word, Option.map_some, ← start]
        rfl

/-! ## Functions of the rule language -/

/-- What a function of the rule language gives for arguments, if it always has a value. -/
def call? (name : String) (args : List Value) : Option Value :=
  match find name args.length with
  | .ok (.total f) => some (f args)
  | _ => none

theorem call?_substr (s : String) (start : Int64) (length? : Option Int64) :
    call? "substr" (.text s :: .int start :: (length?.map Value.int).toList) =
      some (.text (String.ofList
        (substringOf s.toList start.toInt (length?.map Int64.toInt)))) := by
  cases length? <;> rfl

theorem call?_strpos (hay needle : String) (offset : Int64) :
    call? "strpos" [.text hay, .text needle, .int offset] =
      some (match positionIn? hay.toList needle.toList offset.toInt with
        | some i => .ofNat i
        | none => .int (-1)) :=
  rfl

theorem ofNat_eq_int {n : Nat} (short : n < 0x8000000000000000) :
    ∃ k : Int64, Value.ofNat n = .int k ∧ k.toInt = n := by
  have fits : Fits n := by
    rw [Fits]
    omega
  refine ⟨Int64.ofInt n, ?_, Number.toInt_ofInt fits⟩
  rw [Value.ofNat, Number.exactOr, if_pos fits, Value.ofNumber]

/-- The position of a text in one that can be addressed is an integer. -/
theorem exists_int_of_positionIn? {s needle : String} {offset : Int} {i : Nat}
    (addressable : Addressable s) (someChar : needle.toList ≠ [])
    (located : positionIn? s.toList needle.toList offset = some i) :
    ∃ k : Int64, Value.ofNat i = .int k ∧ k.toInt = i := by
  have inside := (occursAt_of_positionIn? someChar located).add_length_le someChar
  have short := addressable.length_lt
  simp only [String.length_toList] at inside
  exact ofNat_eq_int (by omega)

/-- The character from which on a text is looked for: an offset, or one from the end. -/
def searchStart (hay : String) (offset : Int64) : Int :=
  if 0 ≤ offset.toInt then offset.toInt else offset.toInt + hay.length

theorem searchStart_eq (hay : String) (offset : Int64) :
    searchStart hay offset = fromEnd hay.toList.length offset.toInt := by
  rw [searchStart, fromEnd, String.length_toList]
  split_ifs <;> omega

/-- What holds of the parts of a text and of positions in it. -/
structure AgreesOnPositions (s : String) : Prop where
  /-- The parts up to a position and from there on are the whole text. -/
  rejoins : ∀ k : Int64, ∃ before after : String,
    call? "substr" [.text s, .int 0, .int k] = some (.text before) ∧
      call? "substr" [.text s, .int k] = some (.text after) ∧ before ++ after = s
  /-- The position of a text is the least place from the offset on at which it occurs. -/
  first : ∀ (needle : String) (offset : Int64) (p : Nat), needle ≠ "" →
    InText s.toList (searchStart s offset) →
    FirstFrom needle.toList s.toList (searchStart s offset) p →
    call? "strpos" [.text s, .text needle, .int offset] = some (.ofNat p)
  /-- It is minus one if the offset is outside the text or there is no such place. -/
  absent : ∀ (needle : String) (offset : Int64), needle ≠ "" →
    (¬InText s.toList (searchStart s offset) ∨
      ∀ p : Nat, searchStart s offset ≤ p → ¬Text.OccursAt needle.toList s.toList p) →
    call? "strpos" [.text s, .text needle, .int offset] = some (.int (-1))
  /-- The part of the length of a text at the position of that text is that text. -/
  found : Addressable s → ∀ (needle : String) (offset p : Int64), needle ≠ "" → 0 ≤ p.toInt →
    call? "strpos" [.text s, .text needle, .int offset] = some (.int p) →
    ∃ length, call? "length" [.text needle] = some length ∧
      call? "substr" [.text s, .int p, length] = some (.text needle)
  /-- No sum is out of range and no byte offset is inside a character where a part is cut out. -/
  partInBytes : Addressable s → ∀ (start : Int64) (length? : Option Int64), ∃ part,
    substringInBytes? s start length? = some part ∧
      call? "substr" (.text s :: .int start :: (length?.map Value.int).toList) =
        some (.text part)
  /-- The same holds where a position is found. -/
  positionInBytes : Addressable s → ∀ (needle : String) (offset : Int64), needle ≠ "" →
    ∃ p, positionInBytes? s needle offset = some p ∧
      call? "strpos" [.text s, .text needle, .int offset] = some (.int p)

/-- Parts of texts and positions in them agree, for all positions and offsets. -/
theorem agreesOnPositions (s : String) : AgreesOnPositions s where
  rejoins k := by
    refine ⟨_, _, call?_substr s 0 (some k), call?_substr s k none, ?_⟩
    rw [← String.ofList_append, Option.map_some, Option.map_none, Int64.toInt_zero,
      substringOf_append, String.ofList_toList]
  first needle offset p notEmpty inside first := by
    rw [searchStart_eq] at inside first
    have someChar := mt String.toList_eq_nil_iff.mp notEmpty
    rw [call?_strpos, positionIn?_of_firstFrom someChar inside first]
  absent needle offset notEmpty absent := by
    rw [searchStart_eq] at absent
    have someChar := mt String.toList_eq_nil_iff.mp notEmpty
    rw [call?_strpos]
    rcases absent with outside | nowhere
    · rw [positionIn?_of_not_inText outside]
    · rw [positionIn?_of_absent someChar nowhere]
  found addressable needle offset p notEmpty notNegative position := by
    have someChar := mt String.toList_eq_nil_iff.mp notEmpty
    rw [call?_strpos] at position
    cases located : positionIn? s.toList needle.toList offset.toInt with
    | none =>
        rw [located] at position
        cases position
        exact absurd notNegative (by decide)
    | some i =>
        have occurs := occursAt_of_positionIn? someChar located
        have inside := occurs.add_length_le someChar
        have short := addressable.length_lt
        simp only [String.length_toList] at inside
        obtain ⟨k, isInt, same⟩ := exists_int_of_positionIn? addressable someChar located
        obtain ⟨n, isLength, length⟩ := ofNat_eq_int (n := needle.length) (by omega)
        rw [located] at position
        cases isInt.symm.trans (Option.some.inj position)
        refine ⟨.int n, congrArg some isLength, ?_⟩
        refine (call?_substr s p (some n)).trans ?_
        rw [same, Option.map_some, length, ← String.length_toList,
          substringOf_of_occursAt occurs someChar, String.ofList_toList]
  partInBytes addressable start length? :=
    ⟨_, substringInBytes?_eq addressable start length?, call?_substr s start length?⟩
  positionInBytes addressable needle offset notEmpty := by
    have someChar := mt String.toList_eq_nil_iff.mp notEmpty
    obtain ⟨p, computed, same⟩ := positionInBytes?_eq addressable notEmpty offset
    refine ⟨p, computed, ?_⟩
    rw [call?_strpos]
    cases located : positionIn? s.toList needle.toList offset.toInt with
    | none =>
        rw [located] at same
        rw [← Int64.toInt_inj.mp (same.trans (by rfl : (-1 : Int) = (-1 : Int64).toInt))]
    | some i =>
        obtain ⟨k, isInt, isNat⟩ := exists_int_of_positionIn? addressable someChar located
        rw [located] at same
        rw [← Int64.toInt_inj.mp (isNat.trans same.symm), ← isInt]

end EditGuard.Function
