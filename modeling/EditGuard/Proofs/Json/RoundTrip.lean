import EditGuard.Json.Reader
import EditGuard.Proofs.Decimal.Digits
import Mathlib.Tactic.SplitIfs

/-!
# Documents that are read as they were written

The compact text of a document is read as that document, if its numbers are integers of at
most 64 bits and it does not nest too deeply.  Each part of the reader gets a lemma that says
what it makes of the text of such a part and of what follows it.
-/

namespace EditGuard.Json

/-- A document without floating point numbers that nests at most `depth` levels, with no
integer that needs more than 64 bits. -/
inductive Plain : Nat → Json → Prop
  | null {depth : Nat} : Plain depth .null
  | bool {depth : Nat} (b : Bool) : Plain depth (.bool b)
  | integer {depth : Nat} {n : Int} (lower : -0x8000000000000000 ≤ n)
      (upper : n ≤ 0xffffffffffffffff) : Plain depth (.integer n)
  | string {depth : Nat} (s : String) : Plain depth (.string s)
  | array {depth : Nat} {items : List Json} (each : ∀ item ∈ items, Plain depth item) :
      Plain (depth + 1) (.array items)
  | object {depth : Nat} {members : List (String × Json)}
      (each : ∀ member ∈ members, Plain depth member.2) : Plain (depth + 1) (.object members)

/-! ## Strings -/

theorem hexValue?_hexDigit : ∀ n < 16, Text.hexValue? (hexDigit n) = some n := by
  decide

theorem hexQuad?_control {n : Nat} (control : n < 0x20) :
    hexQuad? '0' '0' (hexDigit (n / 16)) (hexDigit (n % 16)) = some n := by
  have zero : Text.hexValue? '0' = some 0 := rfl
  have high := hexValue?_hexDigit (n / 16) (by omega)
  have low := hexValue?_hexDigit (n % 16) (by omega)
  rw [hexQuad?, zero, high, low]
  exact congrArg some (by omega)

theorem stringBody?_simple {e c : Char} (unescaped : unescape? e = some c) (rest : List Char) :
    stringBody? ('\\' :: e :: rest) = (stringBody? rest).map fun r => (c :: r.1, r.2) := by
  have notMark : e ≠ 'u' := by
    rintro rfl
    cases unescaped
  rw [stringBody?, unescaped]
  · intro _ _ _ _ _ same _
    exact notMark same

theorem stringBody?_control {c : Char} (control : c.toNat < 0x20) (rest : List Char) :
    stringBody? ('\\' :: 'u' :: '0' :: '0' :: hexDigit (c.toNat / 16) ::
      hexDigit (c.toNat % 16) :: rest) = (stringBody? rest).map fun r => (c :: r.1, r.2) := by
  have notLeading : isLeading c.toNat = false := by
    simp only [isLeading, Bool.and_eq_false_iff, decide_eq_false_iff_not]
    omega
  have notTrailing : isTrailing c.toNat = false := by
    simp only [isTrailing, Bool.and_eq_false_iff, decide_eq_false_iff_not]
    omega
  rw [stringBody?, hexQuad?_control control]
  simp only [notLeading, notTrailing, Bool.false_eq_true, if_false, Char.ofNat_toNat]

theorem stringBody?_literal {c : Char} (notQuote : c ≠ '"') (notBackslash : c ≠ '\\')
    (notControl : ¬c.toNat < 0x20) (rest : List Char) :
    stringBody? (c :: rest) = (stringBody? rest).map fun r => (c :: r.1, r.2) := by
  rw [stringBody?]
  · rw [if_neg (not_or.mpr ⟨notBackslash, notControl⟩)]
  · exact notQuote
  · intro _ _ _ _ _ h
    exact absurd h notBackslash
  · intro _ _ h
    exact absurd h notBackslash

/-- What stands for a character is read as that character. -/
theorem stringBody?_escape (c : Char) (rest : List Char) :
    stringBody? (escape c ++ rest) = (stringBody? rest).map fun r => (c :: r.1, r.2) := by
  unfold escape
  split_ifs with quote backslash backspace formFeed newline carriage tab control
  · subst quote
    exact stringBody?_simple rfl rest
  · subst backslash
    exact stringBody?_simple rfl rest
  · subst backspace
    exact stringBody?_simple rfl rest
  · subst formFeed
    exact stringBody?_simple rfl rest
  · subst newline
    exact stringBody?_simple rfl rest
  · subst carriage
    exact stringBody?_simple rfl rest
  · subst tab
    exact stringBody?_simple rfl rest
  · exact stringBody?_control control rest
  · exact stringBody?_literal quote backslash control rest

theorem stringBody?_flatMap_escape (cs rest : List Char) :
    stringBody? (cs.flatMap escape ++ '"' :: rest) = some (cs, rest) := by
  induction cs with
  | nil => rw [List.flatMap_nil, List.nil_append, stringBody?]
  | cons c cs ih =>
      rw [List.flatMap_cons, List.append_assoc, stringBody?_escape, ih]
      rfl

theorem string?_quoted (s : String) (rest : List Char) :
    string? (quoted s ++ rest) = some (s, rest) := by
  rw [quoted, List.cons_append, List.append_assoc, string?, List.singleton_append,
    stringBody?_flatMap_escape]
  simp

/-! ## Numbers -/

/-- What may follow a document: nothing, or what separates or closes items. -/
def Closes : List Char → Prop
  | [] => True
  | c :: _ => c = ',' ∨ c = ']' ∨ c = '\x7d'

namespace Closes

variable {rest : List Char}

theorem isDigit_eq_false {c : Char} (closes : Closes (c :: rest)) : c.isDigit = false := by
  rcases closes with rfl | rfl | rfl <;> rfl

theorem isSpace_eq_false {c : Char} (closes : Closes (c :: rest)) : isSpace c = false := by
  rcases closes with rfl | rfl | rfl <;> rfl

theorem skipSpace (closes : Closes rest) : skipSpace rest = rest := by
  cases rest with
  | nil => rfl
  | cons c cs => exact List.dropWhile_cons_of_neg (by simp [closes.isSpace_eq_false])

theorem takeWhile_isDigit (closes : Closes rest) : rest.takeWhile Char.isDigit = [] := by
  cases rest with
  | nil => rfl
  | cons c cs => exact List.takeWhile_cons_of_neg (by simp [closes.isDigit_eq_false])

theorem dropWhile_isDigit (closes : Closes rest) : rest.dropWhile Char.isDigit = rest := by
  cases rest with
  | nil => rfl
  | cons c cs => exact List.dropWhile_cons_of_neg (by simp [closes.isDigit_eq_false])

theorem endsNumber (closes : Closes rest) : endsNumber rest = true := by
  cases rest with
  | nil => rfl
  | cons c cs => rcases closes with rfl | rfl | rfl <;> rfl

end Closes

theorem le_ofDigitChars (ds : List Char) (n : Nat) : n ≤ Nat.ofDigitChars 10 ds n := by
  induction ds generalizing n with
  | nil => simp
  | cons d ds ih =>
      rw [Nat.ofDigitChars_cons]
      exact Nat.le_trans (by omega) (ih _)

/-- Digits are taken up to their end, if their number does not become too large. -/
theorem takeDigits_append {ds rest : List Char} (digits : ∀ d ∈ ds, d.isDigit = true)
    (closes : Closes rest) (n taken : Nat) (fits : Nat.ofDigitChars 10 ds n ≤ significandLimit) :
    takeDigits n taken (ds ++ rest) = (Nat.ofDigitChars 10 ds n, taken + ds.length, rest) := by
  induction ds generalizing n taken with
  | nil =>
      rw [List.nil_append, Nat.ofDigitChars_nil, List.length_nil, Nat.add_zero]
      cases rest with
      | nil => rfl
      | cons c cs =>
          rw [takeDigits, if_neg]
          simp [closes.isDigit_eq_false]
  | cons d ds ih =>
      rw [Nat.ofDigitChars_cons, Nat.mul_comm] at fits ⊢
      have next : n * 10 + (d.toNat - '0'.toNat) ≤ significandLimit :=
        Nat.le_trans (le_ofDigitChars ds _) fits
      rw [List.cons_append, takeDigits, if_pos ⟨digits d List.mem_cons_self, next⟩,
        ih (fun e mem => digits e (List.mem_cons_of_mem d mem)) _ _ fits, List.length_cons]
      simp only [Nat.add_assoc, Nat.add_comm 1]

/-- The digits of a number have no superfluous zero in front. -/
theorem no_leading_zero {n : Nat} {first : Char} {more : List Char}
    (digits : Nat.toDigits 10 n = first :: more) {rest : List Char} (closes : Closes rest) :
    (first == '0' && ((more ++ rest).head?.map Char.isDigit).getD false) = false := by
  by_cases zero : n = 0
  · subst zero
    obtain ⟨rfl, rfl⟩ : '0' = first ∧ [] = more := List.cons.inj digits
    cases rest with
    | nil => rfl
    | cons c cs => simp [closes.isDigit_eq_false]
  · have other : first ≠ '0' := by
      rintro rfl
      apply head?_toDigits_ne (Nat.pos_of_ne_zero zero)
      rw [digits, List.head?_cons]
    simp [other]

/-- The digits of a number are read as that number. -/
theorem magnitude?_toDigits {negative : Bool} {n : Nat} {rest : List Char}
    (closes : Closes rest) (fits : n ≤ significandLimit)
    (signed : negative = true → 0 < n ∧ n ≤ 0x8000000000000000) :
    magnitude? negative (Nat.toDigits 10 n ++ rest) =
      some (integer (if negative then -n else n), rest) := by
  have allDigits : ∀ d ∈ Nat.toDigits 10 n, d.isDigit = true := fun d mem =>
    Nat.isDigit_of_mem_toDigits (by decide) (by decide) mem
  have taken := takeDigits_append allDigits closes 0 0 (by rwa [Nat.ofDigitChars_ten_toDigits])
  rw [Nat.ofDigitChars_ten_toDigits] at taken
  cases digits : Nat.toDigits 10 n with
  | nil => exact absurd digits Nat.toDigits_ne_nil
  | cons first more =>
      have isDigit : first.isDigit = true := allDigits first (by simp [digits])
      rw [digits, List.cons_append] at taken
      rw [List.cons_append, magnitude?]
      simp only [isDigit, no_leading_zero digits closes, taken, closes.takeWhile_isDigit,
        closes.dropWhile_isDigit, closes.endsNumber]
      cases negative with
      | false => rfl
      | true =>
          have inRange : ¬(n = 0 ∨ 0x8000000000000000 < n) := by
            have := signed rfl
            omega
          simp [inRange]

theorem number?_of_isDigit {first : Char} (isDigit : first.isDigit = true) (cs : List Char) :
    number? (first :: cs) = magnitude? false (first :: cs) := by
  rw [number?]
  intro rest same
  cases same
  cases isDigit

/-- What is written of an integer: its digits, after a sign if it is negative. -/
theorem compactChars_integer (n : Int) : compactChars (.integer n) =
    if 0 ≤ n then Nat.toDigits 10 n.toNat else '-' :: Nat.toDigits 10 (-n).toNat := by
  rw [compactChars, Int.toString_eq_repr, Int.repr_eq_if]
  split_ifs with positive
  · exact Nat.toList_repr
  · rw [String.toList_append, Nat.toList_repr]
    rfl

/-- An integer is read as that integer. -/
theorem number?_integer {n : Int} (lower : -0x8000000000000000 ≤ n)
    (upper : n ≤ 0xffffffffffffffff) {rest : List Char} (closes : Closes rest) :
    number? (compactChars (.integer n) ++ rest) = some (integer n, rest) := by
  rw [compactChars_integer]
  split_ifs with positive
  · have fits : n.toNat ≤ significandLimit := by
      unfold significandLimit
      omega
    have read : magnitude? false (Nat.toDigits 10 n.toNat ++ rest) =
        some (integer n.toNat, rest) := magnitude?_toDigits closes fits nofun
    cases digits : Nat.toDigits 10 n.toNat with
    | nil => exact absurd digits Nat.toDigits_ne_nil
    | cons first more =>
        have isDigit : first.isDigit = true :=
          Nat.isDigit_of_mem_toDigits (by decide) (by decide) (digits ▸ List.mem_cons_self)
        rw [digits, List.cons_append] at read
        rw [List.cons_append, number?_of_isDigit isDigit, read, Int.toNat_of_nonneg positive]
  · have fits : (-n).toNat ≤ significandLimit := by
      unfold significandLimit
      omega
    rw [List.cons_append, number?, magnitude?_toDigits closes fits (fun _ => by omega), if_pos rfl,
      Int.toNat_of_nonneg (by omega), Int.neg_neg]

/-! ## Lists -/

section Lists

variable {α : Type} {item? : List Char → Option (α × List Char)} {close : Char}

/-- A text can stand in a list and is read there as an item. -/
structure Reads (item? : List Char → Option (α × List Char)) (text : List Char) (item : α) :
    Prop where
  opens : ∃ c cs, text = c :: cs ∧ isSpace c = false ∧ c ≠ ']' ∧ c ≠ '\x7d'
  reads : ∀ {rest}, Closes rest → item? (text ++ rest) = some (item, rest)

theorem Reads.skipSpace {text : List Char} {item : α} (reads : Reads item? text item)
    (rest : List Char) : skipSpace (text ++ rest) = text ++ rest := by
  obtain ⟨c, cs, rfl, notSpace, -, -⟩ := reads.opens
  exact List.dropWhile_cons_of_neg (by simp [notSpace])

theorem items?_last {text : List Char} {item : α} (reads : Reads item? text item)
    (isClose : close = ']' ∨ close = '\x7d') (rest : List Char) :
    items? item? close (text ++ close :: rest) = some ([item], rest) := by
  have closes : Closes (close :: rest) := .inr isClose
  rw [items?, reads.skipSpace, reads.reads closes]
  simp only [closes.skipSpace, if_true]

theorem items?_cons {text : List Char} {item : α} (reads : Reads item? text item)
    (isClose : close = ']' ∨ close = '\x7d') (rest : List Char) :
    items? item? close (text ++ ',' :: rest) =
      (items? item? close rest).map fun r => (item :: r.1, r.2) := by
  have closes : Closes (',' :: rest) := .inl rfl
  have notClose : ',' ≠ close := by
    rcases isClose with rfl | rfl
    · decide
    · decide
  have shorter : rest.length < (text ++ ',' :: rest).length := by
    rw [List.length_append, List.length_cons]
    omega
  rw [items?, reads.skipSpace, reads.reads closes]
  simp only [closes.skipSpace, if_neg notClose, if_true, dif_pos shorter]

/-- The texts of items with commas between them. -/
def separated (write : α → List Char) (items : List α) : List Char :=
  [','].intercalate (items.map write)

theorem separated_nil (write : α → List Char) : separated write [] = [] :=
  List.intercalate_nil

theorem separated_singleton (write : α → List Char) (item : α) :
    separated write [item] = write item :=
  List.intercalate_singleton

theorem separated_cons_cons (write : α → List Char) (item next : α) (items : List α) :
    separated write (item :: next :: items) = write item ++ ',' :: separated write (next :: items) :=
  List.intercalate_cons_cons.trans (List.append_assoc _ _ _)

variable {write : α → List Char} {items : List α}

/-- Items with commas between them are read one after the other. -/
theorem items?_separated (isClose : close = ']' ∨ close = '\x7d') (notEmpty : items ≠ [])
    (each : ∀ item ∈ items, Reads item? (write item) item) (rest : List Char) :
    items? item? close (separated write items ++ close :: rest) = some (items, rest) := by
  induction items with
  | nil => exact absurd rfl notEmpty
  | cons item more ih =>
      have first := each item List.mem_cons_self
      cases more with
      | nil =>
          rw [separated_singleton]
          exact items?_last first isClose rest
      | cons next others =>
          have later := ih (List.cons_ne_nil _ _) fun a mem => each a (List.mem_cons_of_mem _ mem)
          rw [separated_cons_cons, List.append_assoc, List.cons_append,
            items?_cons first isClose, later]
          rfl

theorem separated_opens {item : α} (reads : Reads item? (write item) item) (more : List α) :
    ∃ c cs, separated write (item :: more) = c :: cs ∧
      isSpace c = false ∧ c ≠ ']' ∧ c ≠ '\x7d' := by
  obtain ⟨c, cs, text, opens⟩ := reads.opens
  cases more with
  | nil => exact ⟨c, cs, by rw [separated_singleton, text], opens⟩
  | cons next others =>
      exact ⟨c, _, by rw [separated_cons_cons, text, List.cons_append], opens⟩

theorem list?_separated (isClose : close = ']' ∨ close = '\x7d')
    (each : ∀ item ∈ items, Reads item? (write item) item) (rest : List Char) :
    list? item? close (separated write items ++ close :: rest) = some (items, rest) := by
  cases items with
  | nil =>
      have closes : Closes (close :: rest) := .inr isClose
      rw [separated_nil, List.nil_append, list?, closes.skipSpace]
      exact if_pos rfl
  | cons item more =>
      have read := items?_separated isClose (List.cons_ne_nil item more) each rest
      obtain ⟨c, cs, text, notSpace, notBracket, notBrace⟩ :=
        separated_opens (each item List.mem_cons_self) more
      have notClose : c ≠ close := by
        rcases isClose with rfl | rfl
        · exact notBracket
        · exact notBrace
      rw [text, List.cons_append] at read ⊢
      rw [list?, skipSpace, List.dropWhile_cons_of_neg (by simp [notSpace])]
      exact (if_neg notClose).trans read

end Lists

/-! ## Documents -/

theorem compactItems_eq (items : List Json) :
    compactItems items = separated compactChars items := by
  induction items with
  | nil => rw [compactItems, separated_nil]
  | cons item more ih =>
      cases more with
      | nil => rw [compactItems, separated_singleton]
      | cons next others =>
          rw [compactItems, ih, separated_cons_cons]
          exact List.cons_ne_nil _ _

/-- The text of a member. -/
def memberChars (member : String × Json) : List Char :=
  quoted member.1 ++ ':' :: compactChars member.2

theorem compactMembers_eq (members : List (String × Json)) :
    compactMembers members = separated memberChars members := by
  induction members with
  | nil => rw [compactMembers, separated_nil]
  | cons member more ih =>
      cases more with
      | nil => rw [compactMembers, separated_singleton, memberChars]
      | cons next others =>
          rw [compactMembers, ih, separated_cons_cons, memberChars, List.append_assoc,
            List.cons_append]
          exact List.cons_ne_nil _ _

theorem member?_memberChars {value? : List Char → Option (Json × List Char)}
    {member : String × Json} (reads : Reads value? (compactChars member.2) member.2) :
    Reads (member? value?) (memberChars member) member where
  opens := ⟨'"', _, rfl, rfl, by decide, by decide⟩
  reads {rest} closes := by
    rw [memberChars, List.append_assoc, member?, string?_quoted, List.cons_append]
    have colon : skipSpace (':' :: (compactChars member.2 ++ rest)) =
        ':' :: (compactChars member.2 ++ rest) := rfl
    simp only [colon, reads.skipSpace, reads.reads closes]
    rfl

/-- The text of an integer starts with a sign or a digit. -/
theorem compactChars_integer_head (n : Int) :
    ∃ c cs, compactChars (.integer n) = c :: cs ∧ (c = '-' ∨ c.isDigit = true) := by
  rw [compactChars_integer]
  split_ifs with positive
  · cases digits : Nat.toDigits 10 n.toNat with
    | nil => exact absurd digits Nat.toDigits_ne_nil
    | cons c cs =>
        exact ⟨c, cs, rfl, .inr (Nat.isDigit_of_mem_toDigits (by decide) (by decide)
          (digits ▸ List.mem_cons_self))⟩
  · exact ⟨'-', _, rfl, .inl rfl⟩

theorem ne_of_isDigit {c d : Char} (isDigit : c.isDigit = true) (other : d.isDigit = false) :
    c ≠ d := by
  rintro rfl
  rw [isDigit] at other
  cases other

theorem opens_of_number {c : Char} (first : c = '-' ∨ c.isDigit = true) :
    isSpace c = false ∧ c ≠ ']' ∧ c ≠ '\x7d' := by
  rcases first with rfl | isDigit
  · decide
  · have notSpace : isSpace c = false := by
      simp [isSpace, ne_of_isDigit isDigit]
    exact ⟨notSpace, ne_of_isDigit isDigit rfl, ne_of_isDigit isDigit rfl⟩

theorem value?_eq_number? {c : Char} (first : c = '-' ∨ c.isDigit = true) (depth : Nat)
    (cs : List Char) : value? depth (c :: cs) = number? (c :: cs) := by
  rw [value?]
  all_goals
    intro rest same
    cases same
    exact absurd first (by decide)

/-- A plain document is read as it was written. -/
theorem Plain.reads {depth : Nat} {j : Json} (plain : Plain depth j) :
    Reads (value? depth) (compactChars j) j := by
  induction plain with
  | null =>
      constructor
      · exact ⟨'n', ['u', 'l', 'l'], by simp [compactChars], rfl, by decide, by decide⟩
      · intro rest _
        simp [compactChars, value?]
  | bool b =>
      cases b with
      | false =>
          constructor
          · exact ⟨'f', ['a', 'l', 's', 'e'], by simp [compactChars], rfl, by decide, by decide⟩
          · intro rest _
            simp [compactChars, value?]
      | true =>
          constructor
          · exact ⟨'t', ['r', 'u', 'e'], by simp [compactChars], rfl, by decide, by decide⟩
          · intro rest _
            simp [compactChars, value?]
  | @integer depth n lower upper =>
      obtain ⟨c, cs, text, first⟩ := compactChars_integer_head n
      constructor
      · exact ⟨c, cs, text, opens_of_number first⟩
      · intro rest closes
        have read := number?_integer lower upper closes
        rw [text, List.cons_append] at read ⊢
        rw [value?_eq_number? first, read]
  | string s =>
      constructor
      · exact ⟨'"', _, rfl, rfl, by decide, by decide⟩
      · intro rest _
        have read := string?_quoted s rest
        rw [quoted, List.cons_append] at read
        rw [compactChars, quoted, List.cons_append, value?, read]
        rfl
  | @array depth items each ih =>
      constructor
      · exact ⟨'[', _, by rw [compactChars], rfl, by decide, by decide⟩
      · intro rest _
        rw [compactChars, compactItems_eq, List.cons_append, List.append_assoc,
          List.singleton_append, value?]
        rw [list?_separated (.inl rfl) ih]
        rfl
  | @object depth members each ih =>
      constructor
      · exact ⟨'\x7b', _, by rw [compactChars], rfl, by decide, by decide⟩
      · intro rest _
        rw [compactChars, compactMembers_eq, List.cons_append, List.append_assoc,
          List.singleton_append, value?]
        rw [list?_separated (.inr rfl) fun member mem => member?_memberChars (ih member mem)]
        rfl

/-- The compact text of a plain document is read as the document. -/
theorem parse?_compact {j : Json} (plain : Plain depthLimit j) : parse? j.compact = some j := by
  have start := plain.reads.skipSpace []
  have read : value? depthLimit (compactChars j ++ []) = some (j, []) := plain.reads.reads trivial
  rw [List.append_nil] at start read
  rw [parse?, compact, String.toList_ofList, start, read]
  rfl

end EditGuard.Json
