import EditGuard.Address.Range
import EditGuard.Consequence.Execution
import EditGuard.Function
import EditGuard.Proofs.Address.RoundTrip
import Mathlib.Data.List.TakeDrop

/-!
# Networks and ranges

A network is written by its first address and the number of bits that its addresses share, and
it is read by another piece of code when a rule tests an address.  Both mean the addresses of
one family whose first bits are those of the address that the network was taken around.
-/

namespace EditGuard

/-! ## Common bits -/

namespace Address

/-- Two addresses are of one family and their first bits are the same. -/
def SharesPrefix (n : Nat) : Address → Address → Prop
  | v4 a, v4 b => ∀ i < n, a.getMsbD i = b.getMsbD i
  | v6 a, v6 b => ∀ i < n, a.getMsbD i = b.getMsbD i
  | _, _ => False

section

variable {width : Nat}

theorem getMsbD_clear {n : Nat} (fits : n ≤ width) (a : BitVec width) (i : Nat) :
    (a >>> (width - n) <<< (width - n)).getMsbD i = (decide (i < n) && a.getMsbD i) := by
  rw [BitVec.getMsbD_shiftLeft, BitVec.getMsbD_ushiftRight, Nat.add_sub_cancel]
  by_cases inside : i < n
  · have low : i + (width - n) < width := by omega
    simp [inside, low]
  · have high : ¬i + (width - n) < width := by omega
    simp [inside, high]

/-- Clearing later bits leaves the same exactly where the first bits are the same. -/
theorem clear_eq_iff {n : Nat} (fits : n ≤ width) (a b : BitVec width) :
    a >>> (width - n) <<< (width - n) = b >>> (width - n) <<< (width - n) ↔
      ∀ i < n, a.getMsbD i = b.getMsbD i := by
  constructor
  · intro same i inside
    have bits := congrArg (fun v : BitVec width => v.getMsbD i) same
    simpa only [getMsbD_clear fits, inside, decide_true, Bool.true_and] using bits
  · intro same
    apply BitVec.eq_of_getMsbD_eq
    intro i _
    rw [getMsbD_clear fits, getMsbD_clear fits]
    by_cases inside : i < n
    · rw [same i inside]
    · simp [inside]

theorem clear_clear {n : Nat} (fits : n ≤ width) (a : BitVec width) :
    (a >>> (width - n) <<< (width - n)) >>> (width - n) <<< (width - n) =
      a >>> (width - n) <<< (width - n) := by
  rw [clear_eq_iff fits]
  intro i inside
  rw [getMsbD_clear fits, decide_eq_true inside, Bool.true_and]

/-- A shift that makes no word if it is as wide as the word. -/
def shiftWithin? (a : BitVec width) (n : Nat) : Option (BitVec width) :=
  if n < width then some (a <<< n) else none

/-- The first bits of a word are set in a mask. -/
def mask (width n : Nat) : BitVec width :=
  (shiftWithin? (BitVec.allOnes width) (width - n)).getD 0

/-- Later bits are cleared by a mask. -/
theorem and_mask {n : Nat} (fits : n ≤ width) (a : BitVec width) :
    a &&& mask width n = a >>> (width - n) <<< (width - n) := by
  apply BitVec.eq_of_getMsbD_eq
  intro i low
  rw [getMsbD_clear fits, BitVec.getMsbD_and, Bool.and_comm, mask, shiftWithin?]
  congr 1
  split
  · by_cases inside : i < n
    · have high : i + (width - n) < width := by omega
      simp [inside, high]
    · have beyond : ¬i + (width - n) < width := by omega
      simp [inside, beyond]
  · have none : ¬i < n := by omega
    simp [none]

/-- Numbers agree above a bit if the bits above it are the same. -/
theorem shiftRight_eq_iff {n : Nat} (fits : n ≤ width) (a b : BitVec width) :
    a.toNat >>> (width - n) = b.toNat >>> (width - n) ↔ ∀ i < n, a.getMsbD i = b.getMsbD i := by
  rw [← BitVec.toNat_ushiftRight, ← BitVec.toNat_ushiftRight, BitVec.toNat_inj]
  constructor
  · intro same i inside
    have bits := congrArg (fun v : BitVec width => v.getMsbD (i + (width - n))) same
    have low : i + (width - n) < width := by omega
    simpa [low] using bits
  · intro same
    apply BitVec.eq_of_getMsbD_eq
    intro i low
    rw [BitVec.getMsbD_ushiftRight, BitVec.getMsbD_ushiftRight]
    by_cases cleared : i < width - n
    · simp [cleared]
    · rw [same (i - (width - n)) (by omega)]

end

/-- How many bits the text of the network around an address tells. -/
def networkLength (a : Address) (v4Length v6Length : Nat) : Nat :=
  match a with
  | v4 _ => min v4Length 32
  | v6 _ => min v6Length 128

variable {a b : Address} {n : Nat}

theorem networkLength_le (a : Address) (v4Length v6Length : Nat) :
    a.networkLength v4Length v6Length ≤ a.width := by
  cases a with
  | v4 _ => exact Nat.min_le_right _ _
  | v6 _ => exact Nat.min_le_right _ _

theorem width_le (a : Address) : a.width ≤ 128 := by
  cases a with
  | v4 _ => exact Nat.le_of_ble_eq_true rfl
  | v6 _ => exact Nat.le_refl 128

theorem width_clearAfter (a : Address) (n : Nat) : (a.clearAfter n).width = a.width := by
  cases a <;> rfl

/-- Addresses agree where their first bits are the same. -/
theorem agree_iff (fits : n ≤ a.width) (b : Address) : agree a b n = true ↔ SharesPrefix n a b := by
  cases a with
  | v4 bits =>
      cases b with
      | v4 others => exact Iff.trans beq_iff_eq (shiftRight_eq_iff fits bits others)
      | v6 _ => exact ⟨nofun, nofun⟩
  | v6 bits =>
      cases b with
      | v4 _ => exact ⟨nofun, nofun⟩
      | v6 others => exact Iff.trans beq_iff_eq (shiftRight_eq_iff fits bits others)

theorem clearAfter_eq_iff (fits : n ≤ a.width) (b : Address) :
    a.clearAfter n = b.clearAfter n ↔ SharesPrefix n a b := by
  cases a with
  | v4 bits =>
      cases b with
      | v4 others => exact Iff.trans ⟨v4.inj, congrArg v4⟩ (clear_eq_iff fits bits others)
      | v6 _ => exact ⟨nofun, nofun⟩
  | v6 bits =>
      cases b with
      | v4 _ => exact ⟨nofun, nofun⟩
      | v6 others => exact Iff.trans ⟨v6.inj, congrArg v6⟩ (clear_eq_iff fits bits others)

/-- The address with the bits that a mask leaves. -/
def masked (a : Address) (n : Nat) : Address :=
  match a with
  | v4 bits => v4 (bits &&& mask 32 n)
  | v6 bits => v6 (bits &&& mask 128 n)

theorem masked_eq (fits : n ≤ a.width) : a.masked n = a.clearAfter n := by
  cases a with
  | v4 bits => exact congrArg v4 (and_mask fits bits)
  | v6 bits => exact congrArg v6 (and_mask fits bits)

theorem clearAfter_clearAfter (fits : n ≤ a.width) :
    (a.clearAfter n).clearAfter n = a.clearAfter n := by
  cases a with
  | v4 bits => exact congrArg v4 (clear_clear fits bits)
  | v6 bits => exact congrArg v6 (clear_clear fits bits)

/-- The first address of a network agrees with the same addresses as the one it was taken
around. -/
theorem agree_clearAfter_iff (fits : n ≤ a.width) (b : Address) :
    agree (a.clearAfter n) b n = true ↔ SharesPrefix n a b := by
  have fitsToo : n ≤ (a.clearAfter n).width := by
    rw [width_clearAfter]
    exact fits
  rw [agree_iff fitsToo, ← clearAfter_eq_iff fitsToo, clearAfter_clearAfter fits,
    clearAfter_eq_iff fits]

/-! ## Reading networks -/

theorem networkText_eq (a : Address) (v4Length v6Length : Nat) :
    a.networkText v4Length v6Length =
      (a.clearAfter (a.networkLength v4Length v6Length)).toText ++ "/" ++
        toString (a.networkLength v4Length v6Length) :=
  rfl

theorem isBlank_of_isLetter {c : Char} (letter : isLetter c = true) : Text.isBlank c = false := by
  simp only [isLetter, Text.isHexDigit, Text.hexValue?, Bool.or_eq_true, beq_iff_eq] at letter
  have visible (least most : Char) (above : 0x20 < least.toNat) (below : most.toNat < 0x80)
      (between : least ≤ c ∧ c ≤ most) : Text.isBlank c = false :=
    Text.isBlank_eq_false (Nat.lt_of_lt_of_le above between.1) (Nat.lt_of_le_of_lt between.2 below)
  rcases letter with (hexadecimal | rfl) | rfl
  · split_ifs at hexadecimal with decimal lower upper
    · rw [Char.isDigit_iff_toNat] at decimal
      exact visible '0' '9' (by decide) (by decide) decimal
    · exact visible 'a' 'f' (by decide) (by decide) lower
    · exact visible 'A' 'F' (by decide) (by decide) upper
    · cases hexadecimal
  · rfl
  · rfl

theorem endsAddress_slash (cs : List Char) : EndsAddress ('/' :: cs) := by
  constructor
  · rintro _ ⟨⟩
    decide
  · rintro ⟨⟩

namespace Range

theorem length?_toString {limit : Nat} (fits : n ≤ limit) (small : limit < 1000) :
    length? limit (toString n).toList = some n := by
  have short : ¬3 < (Nat.toDigits 10 n).length := by
    rw [Nat.not_lt, Nat.length_toDigits_le_iff (by decide) (by decide)]
    omega
  have digits : (Nat.toDigits 10 n).all Char.isDigit = true :=
    List.all_eq_true.mpr (isDigit_toDigits n)
  have inRange : ¬limit < n := Nat.not_lt.mpr fits
  rw [toList_toString_nat, length?, naturalOf_toDigits, digits]
  simp [short, inRange]

/-- The text of a network has no blank, and no hyphen. -/
theorem plain_networkText (a : Address) (v4Length v6Length : Nat) :
    ∀ c ∈ (a.networkText v4Length v6Length).toList, Text.isBlank c = false ∧ c ≠ '-' := by
  have plain {c : Char} (letter : isLetter c = true) : Text.isBlank c = false ∧ c ≠ '-' := by
    refine ⟨isBlank_of_isLetter letter, ?_⟩
    rintro rfl
    cases letter
  rw [networkText_eq]
  simp only [String.toList_append, List.forall_mem_append]
  refine ⟨⟨fun c mem => plain (isLetter_toText _ c mem), ?_⟩, fun c mem => ?_⟩
  · exact List.forall_mem_singleton.mpr ⟨rfl, by decide⟩
  · exact plain (isLetter_toString _ c mem)

theorem network?_networkText (a : Address) (v4Length v6Length : Nat) :
    network? (a.networkText v4Length v6Length).toList =
      some (.network (a.clearAfter (a.networkLength v4Length v6Length))
        (a.networkLength v4Length v6Length)) := by
  have fits := a.networkLength_le v4Length v6Length
  have text : (a.networkText v4Length v6Length).toList =
      (a.clearAfter (a.networkLength v4Length v6Length)).toText.toList ++ '/' ::
        (toString (a.networkLength v4Length v6Length)).toList := by
    simp [networkText_eq]
  have small : a.width < 1000 := Nat.lt_of_le_of_lt a.width_le (by decide)
  rw [text, network?, scan?_toText _ (endsAddress_slash _)]
  simp only
  rw [width_clearAfter, length?_toString fits small, Option.map_some, clearAfter_clearAfter fits]

/-- The text of a network is read as that network. -/
theorem parse?_networkText (a : Address) (v4Length v6Length : Nat) :
    parse? (a.networkText v4Length v6Length) =
      some (.network (a.clearAfter (a.networkLength v4Length v6Length))
        (a.networkLength v4Length v6Length)) := by
  have plain := plain_networkText a v4Length v6Length
  have trimmed := Text.trim_of_noBlank fun c mem => (plain c mem).1
  have noHyphen : ∀ c ∈ (a.networkText v4Length v6Length).toList, (c != '-') = true :=
    fun c mem => bne_iff_ne.mpr (plain c mem).2
  have slash : (a.networkText v4Length v6Length).toList.contains '/' = true := by
    simp [networkText_eq]
  rw [parse?, trimmed, List.span_eq_takeWhile_dropWhile, List.takeWhile_eq_self_iff.mpr noHyphen,
    List.dropWhile_eq_nil_iff.mpr noHyphen]
  simp only
  rw [if_pos slash, network?_networkText]

/-- An address is read from its text. -/
theorem address?_toText (a : Address) : address? a.toText.toList = some a := by
  have trimmed := Text.trim_of_noBlank fun c mem => isBlank_of_isLetter (a.isLetter_toText c mem)
  rw [address?, trimmed, scan?_toText_end]

end Range

/-- The network around an address is the network around another one exactly if their first bits
are the same. -/
theorem networkText_eq_iff (a b : Address) (v4Length v6Length : Nat) :
    b.networkText v4Length v6Length = a.networkText v4Length v6Length ↔
      SharesPrefix (a.networkLength v4Length v6Length) a b := by
  have fits := a.networkLength_le v4Length v6Length
  rw [← clearAfter_eq_iff fits]
  constructor
  · intro same
    have readOther := Range.parse?_networkText b v4Length v6Length
    rw [same, Range.parse?_networkText a, Option.some_inj, Range.network.injEq] at readOther
    rw [readOther.1, readOther.2]
  · intro same
    have family : b.networkLength v4Length v6Length = a.networkLength v4Length v6Length := by
      cases a with
      | v4 bits =>
          cases b with
          | v4 others => rfl
          | v6 others => cases same
      | v6 bits =>
          cases b with
          | v4 others => cases same
          | v6 others => rfl
    rw [networkText_eq, networkText_eq, family, same]

/-- A text writes the addresses that share their first bits with an address: it is read as a
range of just these, and a rule that tests addresses with it finds just these in it. -/
structure WritesNetwork (text : String) (a : Address) (n : Nat) : Prop where
  read : ∃ range, Range.parse? text = some range ∧
    ∀ b, range.contains b = true ↔ SharesPrefix n a b
  tested : ∀ b patterns, ∃ body answer, Function.find "ip_in_range" 2 = .ok body ∧
    body.apply [.text b.toText, .text text] patterns = .ok (.bool answer, patterns) ∧
    (answer = true ↔ SharesPrefix n a b)

theorem addressInRanges_eq {text : String} {range : Range} (read : Range.parse? text = some range)
    (b : Address) :
    Function.addressInRanges [.text b.toText, .text text] = .ok (.bool (range.contains b)) := by
  have first : Function.textArg [.text b.toText, .text text] 0 = b.toText := rfl
  have second : Range.parse? (Value.text text).toText = some range := read
  rw [Function.addressInRanges, first, Range.address?_toText, List.tail_cons, Function.inRanges,
    second]
  simp [Function.inRanges, Except.map]

theorem writesNetwork_networkText (a : Address) (v4Length v6Length : Nat) :
    WritesNetwork (a.networkText v4Length v6Length) a (a.networkLength v4Length v6Length) := by
  have fits := a.networkLength_le v4Length v6Length
  have read := Range.parse?_networkText a v4Length v6Length
  constructor
  · exact ⟨_, read, agree_clearAfter_iff fits⟩
  · intro b patterns
    refine ⟨.checked Function.addressInRanges, _, rfl, ?_, agree_clearAfter_iff fits b⟩
    rw [Function.Body.apply, addressInRanges_eq read]
    rfl

/-! ## Networks of consequences -/

/-- What a consequence is about if the action comes from an address. -/
def origin (a : Address) (s : Subject) : Subject :=
  { s with action := { s.action with address := some a } }

/-- The networks that are blocked, and by which hits are counted, are those that rules test for
with the same texts: the addresses of one family with the same first bits. -/
theorem writesNetwork_consequences (a : Address) :
    (∀ v4Length v6Length,
      a.networkText v4Length v6Length =
        (a.masked (a.networkLength v4Length v6Length)).toText ++ "/" ++
          toString (a.networkLength v4Length v6Length) ∧
      WritesNetwork (a.networkText v4Length v6Length) a (a.networkLength v4Length v6Length) ∧
      ∀ b, b.networkText v4Length v6Length = a.networkText v4Length v6Length ↔
        SharesPrefix (a.networkLength v4Length v6Length) a b) ∧
    (∀ (σ : Type) (p : Platform σ) settings (c : Consequence), ∃ request,
      Consequence.carryOut p settings
          { c with measure := .rangeBlock, subject := origin a c.subject } =
        Scene.lift (p.block request) ∧
      WritesNetwork request.target a
        (a.networkLength settings.rangeSize.v4 settings.rangeSize.v6)) ∧
    ∀ settings s, WritesNetwork (Throttle.identifier settings (origin a s).action .range) a
      (a.networkLength 16 64) := by
  refine ⟨fun v4Length v6Length => ⟨?_, ?_, ?_⟩, fun _ p settings c => ?_, fun settings s => ?_⟩
  · rw [masked_eq (a.networkLength_le v4Length v6Length)]
    exact networkText_eq a v4Length v6Length
  · exact writesNetwork_networkText a v4Length v6Length
  · exact fun b => networkText_eq_iff a b v4Length v6Length
  · exact ⟨Consequence.rangeBlockRequest settings (origin a c.subject) a, rfl,
      writesNetwork_networkText a _ _⟩
  · exact writesNetwork_networkText a 16 64

end Address

end EditGuard
