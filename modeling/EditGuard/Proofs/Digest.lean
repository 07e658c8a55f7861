import EditGuard.Digest
import EditGuard.Proofs.Splitting
import Mathlib.Algebra.Ring.Nat
import Mathlib.Tactic.SplitIfs

/-!
# What a digest tells

Texts without zero characters can be told from their bytes with a zero byte after each.  The
hexadecimal digits of a digest tell its words.
-/

namespace EditGuard.Digest

/-! ## Bytes of texts -/

theorem toList_loop_eq (bytes : ByteArray) (i : Nat) (before : List UInt8) :
    ByteArray.toList.loop bytes i before = before.reverse ++ bytes.data.toList.drop i := by
  induction i, before using ByteArray.toList.loop.induct bytes with
  | case1 i before inside ih =>
      have bound : i < bytes.data.toList.length := inside
      have byte : bytes.get! i = bytes.data.toList[i] := getElem!_pos bytes.data i inside
      rw [ByteArray.toList.loop, if_pos inside, ih, List.drop_eq_getElem_cons bound, byte,
        List.reverse_cons, List.append_assoc, List.singleton_append]
  | case2 i before outside =>
      have bound : bytes.data.toList.length ≤ i := Nat.le_of_not_lt outside
      rw [ByteArray.toList.loop, if_neg outside, List.drop_eq_nil_of_le bound, List.append_nil]

theorem toList_eq (bytes : ByteArray) : bytes.toList = bytes.data.toList :=
  toList_loop_eq bytes 0 []

/-- The bytes of a text, by its characters. -/
theorem toList_toUTF8 (s : String) :
    s.toUTF8.toList = s.toList.flatMap String.utf8EncodeChar := by
  have encoded : s.toByteArray = s.toList.utf8Encode := by
    rw [← String.toByteArray_ofList, String.ofList_toList]
  rw [toList_eq, String.toUTF8_eq_toByteArray, encoded, List.utf8Encode,
    List.toList_data_toByteArray]

theorem toList_toUTF8_inj {s t : String} (same : s.toUTF8.toList = t.toUTF8.toList) : s = t := by
  rw [toList_eq, toList_eq, Array.toList_inj] at same
  exact String.toByteArray_inj.mp (ByteArray.ext same)

theorem ofNat_ne_zero {n : Nat} (positive : 0 < n) (small : n < 256) :
    (0 : UInt8) ≠ UInt8.ofNat n := by
  intro same
  have numbers := congrArg UInt8.toNat same
  rw [UInt8.toNat_ofNat_of_lt' small] at numbers
  exact absurd numbers (Nat.ne_of_lt positive)

theorem zero_notMem_utf8EncodeChar {c : Char} (notZero : c ≠ '\x00') :
    (0 : UInt8) ∉ String.utf8EncodeChar c := by
  have positive : 0 < c.val.toNat := by
    apply Nat.pos_of_ne_zero
    intro zero
    exact notZero (Char.ext (UInt32.toNat_inj.mp zero))
  simp only [String.utf8EncodeChar]
  split_ifs with one two three
  · rw [List.mem_singleton]
    exact ofNat_ne_zero positive (by omega)
  · simp only [List.mem_cons, List.not_mem_nil, or_false, not_or]
    exact ⟨ofNat_ne_zero (by omega) (by omega), ofNat_ne_zero (by omega) (by omega)⟩
  · simp only [List.mem_cons, List.not_mem_nil, or_false, not_or]
    exact ⟨ofNat_ne_zero (by omega) (by omega), ofNat_ne_zero (by omega) (by omega),
      ofNat_ne_zero (by omega) (by omega)⟩
  · simp only [List.mem_cons, List.not_mem_nil, or_false, not_or]
    exact ⟨ofNat_ne_zero (by omega) (by omega), ofNat_ne_zero (by omega) (by omega),
      ofNat_ne_zero (by omega) (by omega), ofNat_ne_zero (by omega) (by omega)⟩

/-- A text without zero characters has no zero byte. -/
theorem zero_notMem_toUTF8 {s : String} (noZero : '\x00' ∉ s.toList) :
    (0 : UInt8) ∉ s.toUTF8.toList := by
  rw [toList_toUTF8, List.mem_flatMap]
  rintro ⟨c, mem, zero⟩
  refine zero_notMem_utf8EncodeChar ?_ zero
  rintro rfl
  exact noZero mem

/-! ## Texts with zero bytes after them -/

theorem terminated_cons (part : String) (parts : List String) :
    terminated (part :: parts) = part.toUTF8.toList ++ 0 :: terminated parts := by
  rw [terminated, List.flatMap_cons, List.append_assoc]
  rfl

/-- Texts without zero characters are told, with what follows them, by their bytes. -/
theorem terminated_cons_inj {s t : String} {parts others : List String}
    (noZero : '\x00' ∉ s.toList) (noZeroOther : '\x00' ∉ t.toList)
    (same : terminated (s :: parts) = terminated (t :: others)) :
    s = t ∧ terminated parts = terminated others := by
  have bytes {u : String} (noZero : '\x00' ∉ u.toList) :
      ∀ b ∈ u.toUTF8.toList, (b != 0) = true := by
    intro b mem
    rw [bne_iff_ne]
    rintro rfl
    exact zero_notMem_toUTF8 noZero mem
  have stops (more : List UInt8) : ∀ b ∈ (0 :: more).head?, (b != 0) = false := by
    rintro _ ⟨⟩
    rfl
  rw [terminated_cons, terminated_cons] at same
  obtain ⟨first, rest⟩ :=
    append_inj_of_kind (bytes noZero) (bytes noZeroOther) (stops _) (stops _) same
  exact ⟨toList_toUTF8_inj first, (List.cons.inj rest).2⟩

theorem terminated_ne_nil (part : String) (parts : List String) :
    terminated (part :: parts) ≠ [] := by
  rw [terminated_cons]
  exact List.append_ne_nil_of_right_ne_nil _ (List.cons_ne_nil _ _)

theorem terminated_inj {parts others : List String} (noZero : ∀ s ∈ parts, '\x00' ∉ s.toList)
    (noZeroOther : ∀ s ∈ others, '\x00' ∉ s.toList)
    (same : terminated parts = terminated others) : parts = others := by
  induction parts generalizing others with
  | nil =>
      cases others with
      | nil => rfl
      | cons other more => exact absurd same.symm (terminated_ne_nil _ _)
  | cons part more ih =>
      cases others with
      | nil => exact absurd same (terminated_ne_nil _ _)
      | cons other moreOthers =>
          obtain ⟨noZeroFirst, noZeroMore⟩ := List.forall_mem_cons.mp noZero
          obtain ⟨noZeroFirstOther, noZeroMoreOther⟩ := List.forall_mem_cons.mp noZeroOther
          obtain ⟨rfl, rest⟩ := terminated_cons_inj noZeroFirst noZeroFirstOther same
          rw [ih noZeroMore noZeroMoreOther rest]

/-! ## Hexadecimal digits -/

theorem digitChar_inj : ∀ m < 16, ∀ n < 16, Nat.digitChar m = Nat.digitChar n → m = n := by
  decide

theorem length_hexWord (w : UInt32) : (hexWord w).length = 8 := by
  rw [hexWord, List.length_map, List.length_range]

/-- A number is told by its hexadecimal digits. -/
theorem eq_of_nibbles {k m n : Nat} (left : m < 16 ^ k) (right : n < 16 ^ k)
    (same : ∀ i < k, m / 16 ^ i % 16 = n / 16 ^ i % 16) : m = n := by
  induction k generalizing m n with
  | zero =>
      rw [Nat.pow_zero, Nat.lt_one_iff] at left right
      rw [left, right]
  | succ k ih =>
      rw [Nat.pow_succ] at left right
      have last : m % 16 = n % 16 := by simpa using same 0 (Nat.succ_pos k)
      have front : m / 16 = n / 16 := by
        refine ih (Nat.div_lt_of_lt_mul (by omega)) (Nat.div_lt_of_lt_mul (by omega)) ?_
        intro i small
        rw [Nat.div_div_eq_div_mul, Nat.div_div_eq_div_mul, ← Nat.pow_succ']
        exact same (i + 1) (Nat.succ_lt_succ small)
      omega

theorem hexWord_inj {v w : UInt32} (same : hexWord v = hexWord w) : v = w := by
  have digits := List.map_inj_left.mp same
  apply UInt32.toNat_inj.mp
  refine eq_of_nibbles (k := 8) v.toNat_lt w.toNat_lt fun i small => ?_
  have digit := digits (7 - i) (List.mem_range.mpr (by omega))
  have place : 4 * (7 - (7 - i)) = 4 * i := by omega
  rw [place, Nat.shiftRight_eq_div_pow, Nat.shiftRight_eq_div_pow, Nat.pow_mul] at digit
  exact digitChar_inj _ (Nat.mod_lt _ (by decide)) _ (Nat.mod_lt _ (by decide)) digit

theorem flatMap_hexWord_inj {vs ws : List UInt32} (lengths : vs.length = ws.length)
    (same : vs.flatMap hexWord = ws.flatMap hexWord) : vs = ws := by
  induction vs generalizing ws with
  | nil => exact (List.length_eq_zero_iff.mp lengths.symm).symm
  | cons v vs ih =>
      cases ws with
      | nil => cases lengths
      | cons w ws =>
          rw [List.flatMap_cons, List.flatMap_cons] at same
          obtain ⟨first, rest⟩ := List.append_inj same (by rw [length_hexWord, length_hexWord])
          rw [hexWord_inj first, ih (Nat.succ.inj lengths) rest]

/-- The hexadecimal digits of a digest tell the digest. -/
theorem sha256_eq_of_ofParts_eq {parts others : List String}
    (same : ofParts parts = ofParts others) :
    sha256 (terminated parts) = sha256 (terminated others) :=
  flatMap_hexWord_inj rfl (String.ofList_inj.mp same)

end EditGuard.Digest
