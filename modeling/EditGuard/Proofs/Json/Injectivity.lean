import EditGuard.Proofs.Json.Number
import EditGuard.Proofs.Json.RoundTrip

/-!
# Documents are told by their texts

A compact text stands for one document only, if all floating point numbers in it are finite.
No two such documents have texts that go on, after what may follow a document, in the same
way, so that the texts of the items of a list tell the items.
-/

namespace EditGuard.Json

/-- A document whose floating point numbers are finite. -/
inductive Proper : Json → Prop
  | null : Proper .null
  | bool (b : Bool) : Proper (.bool b)
  | integer (n : Int) : Proper (.integer n)
  | float {x : Float} (isFinite : x.isFinite = true) : Proper (.float x)
  | string (s : String) : Proper (.string s)
  | array {items : List Json} (each : ∀ item ∈ items, Proper item) : Proper (.array items)
  | object {members : List (String × Json)} (each : ∀ member ∈ members, Proper member.2) :
      Proper (.object members)

/-! ## Numbers -/

theorem Closes.isNumeric_eq_false {rest : List Char} (closes : Closes rest) :
    ∀ c ∈ rest.head?, isNumeric c = false := by
  cases rest with
  | nil => nofun
  | cons c cs =>
      rintro _ ⟨⟩
      rcases closes with rfl | rfl | rfl
      · rfl
      · rfl
      · rfl

theorem isNumeric_signed {negative : Bool} {text : List Char}
    (numeric : ∀ c ∈ text, isNumeric c = true) :
    ∀ c ∈ signed negative text, isNumeric c = true := by
  cases negative with
  | false => exact numeric
  | true => exact List.forall_mem_cons.mpr ⟨rfl, numeric⟩

theorem compactChars_integer_eq_signed (n : Int) :
    compactChars (.integer n) = signed (decide (n < 0)) (Decimal.digitsOf n.natAbs) := by
  rw [compactChars_integer]
  rcases Int.lt_or_le n 0 with negative | notNegative
  · have magnitude : (-n).toNat = n.natAbs := by omega
    rw [if_neg (Int.not_le.mpr negative), decide_eq_true negative, magnitude]
    rfl
  · have magnitude : n.toNat = n.natAbs := by omega
    rw [if_pos notNegative, decide_eq_false (Int.not_lt.mpr notNegative), magnitude]
    rfl

theorem head_digitsOf (n : Nat) : ∃ c ∈ (Decimal.digitsOf n).head?, c.isDigit = true := by
  cases written : Decimal.digitsOf n with
  | nil => exact absurd written Nat.toDigits_ne_nil
  | cons first others =>
      exact ⟨first, rfl, isDigit_digitsOf first (written ▸ List.mem_cons_self)⟩

theorem integer_inj {m n : Int} (same : compactChars (.integer m) = compactChars (.integer n)) :
    m = n := by
  rw [compactChars_integer_eq_signed, compactChars_integer_eq_signed] at same
  obtain ⟨sign, digits⟩ := signed_inj (head_digitsOf _) (head_digitsOf _) same
  have magnitude : m.natAbs = n.natAbs := by
    rw [← ofDigitChars_digitsOf m.natAbs, digits, ofDigitChars_digitsOf]
  rw [decide_eq_decide] at sign
  omega

/-- No integer has the text of a floating point number. -/
theorem integer_ne_float {n : Int} {x : Float} (isFinite : x.isFinite = true) :
    compactChars (.integer n) ≠ compactChars (.float x) := by
  intro same
  obtain ⟨negative, text, value, written, looks⟩ := exists_signed_floatText isFinite
  rw [compactChars_integer_eq_signed, compactChars, looks] at same
  obtain ⟨-, digits⟩ := signed_inj (head_digitsOf _) written.starts same
  obtain ⟨c, mem, notDigit⟩ := written.marked
  rw [← digits] at mem
  rw [isDigit_digitsOf c mem] at notDigit
  cases notDigit

/-- The characters of a number. -/
theorem isNumeric_integer (n : Int) : ∀ c ∈ compactChars (.integer n), isNumeric c = true := by
  rw [compactChars_integer_eq_signed]
  exact isNumeric_signed (isNumeric_of_isDigit isDigit_digitsOf)

theorem isNumeric_float {x : Float} (isFinite : x.isFinite = true) :
    ∀ c ∈ compactChars (.float x), isNumeric c = true := by
  obtain ⟨negative, text, value, written, looks⟩ := exists_signed_floatText isFinite
  rw [compactChars, looks]
  exact isNumeric_signed written.numeric

/-! ## Lists -/

section Lists

variable {α : Type} {write : α → List Char} {good : α → Prop} {close : Char}
  {rest tail : List Char}

/-- The text of an item, followed by what may follow it, tells the item and what follows. -/
def Tells (write : α → List Char) (good : α → Prop) (item : α) : Prop :=
  ∀ {other : α} {rest tail : List Char}, good other → Closes rest → Closes tail →
    write item ++ rest = write other ++ tail → item = other ∧ rest = tail

theorem head?_append_of_mem {text : List Char} {c : Char} (mem : c ∈ text.head?)
    (more : List Char) : (text ++ more).head? = some c := by
  rw [List.head?_append, Option.mem_def.mp mem]
  rfl

/-- What follows an item in a list. -/
def following (write : α → List Char) : List α → List Char
  | [] => []
  | items => ',' :: separated write items

theorem separated_cons (item : α) (more : List α) :
    separated write (item :: more) = write item ++ following write more := by
  cases more with
  | nil => rw [separated_singleton, following, List.append_nil]
  | cons next others =>
      rw [separated_cons_cons, following]
      exact List.cons_ne_nil _ _

theorem closes_following (isClose : close = ']' ∨ close = '\x7d') (more : List α) :
    Closes (following write more ++ close :: rest) := by
  cases more with
  | nil => exact .inr isClose
  | cons next others => exact .inl rfl

variable {items others : List α} (isClose : close = ']' ∨ close = '\x7d')

include isClose

theorem comma_ne : ',' ≠ close := by
  rcases isClose with rfl | rfl
  · decide
  · decide

/-- The text of a list tells its first item and what follows that. -/
theorem first_tells {item other : α} {more moreOthers : List α} (tells : Tells write good item)
    (isGood : good other)
    (same : separated write (item :: more) ++ close :: rest =
      separated write (other :: moreOthers) ++ close :: tail) :
    item = other ∧
      following write more ++ close :: rest = following write moreOthers ++ close :: tail := by
  rw [separated_cons, separated_cons, List.append_assoc, List.append_assoc] at same
  exact tells isGood (closes_following isClose more) (closes_following isClose moreOthers) same

/-- What follows an item in a list tells the items after it. -/
theorem following_tells (each : ∀ item ∈ items, Tells write good item)
    (eachOther : ∀ other ∈ others, good other)
    (same : following write items ++ close :: rest = following write others ++ close :: tail) :
    items = others ∧ rest = tail := by
  have notClose := comma_ne isClose
  -- a list has a comma in front of every item but the first, so the lists are compared by what
  -- follows an item
  induction items generalizing others with
  | nil =>
      cases others with
      | nil => exact ⟨rfl, (List.cons.inj same).2⟩
      | cons other moreOthers => exact absurd (List.cons.inj same).1.symm notClose
  | cons item more ih =>
      cases others with
      | nil => exact absurd (List.cons.inj same).1 notClose
      | cons other moreOthers =>
          obtain ⟨tells, eachMore⟩ := List.forall_mem_cons.mp each
          obtain ⟨isGood, eachMoreOther⟩ := List.forall_mem_cons.mp eachOther
          obtain ⟨rfl, later⟩ := first_tells isClose tells isGood (List.cons.inj same).2
          obtain ⟨rfl, rests⟩ := ih eachMore eachMoreOther later
          exact ⟨rfl, rests⟩

/-- The texts of items with commas between them tell the items. -/
theorem separated_tells (opens : ∀ item, good item → ∃ c ∈ (write item).head?, c ≠ close)
    (each : ∀ item ∈ items, good item ∧ Tells write good item)
    (eachOther : ∀ other ∈ others, good other)
    (same : separated write items ++ close :: rest = separated write others ++ close :: tail) :
    items = others ∧ rest = tail := by
  have notClose {item : α} {left right : List Char} (isGood : good item) :
      close :: left ≠ write item ++ right := by
    obtain ⟨c, mem, other⟩ := opens item isGood
    intro same
    have heads := congrArg List.head? same
    rw [head?_append_of_mem mem] at heads
    exact other (Option.some.inj heads).symm
  cases items with
  | nil =>
      cases others with
      | nil => exact ⟨rfl, (List.cons.inj same).2⟩
      | cons other moreOthers =>
          rw [separated_cons, List.append_assoc] at same
          exact absurd same (notClose (eachOther other List.mem_cons_self))
  | cons item more =>
      obtain ⟨⟨isGood, tells⟩, eachMore⟩ := List.forall_mem_cons.mp each
      cases others with
      | nil =>
          rw [separated_cons, List.append_assoc] at same
          exact absurd same.symm (notClose isGood)
      | cons other moreOthers =>
          obtain ⟨otherGood, eachMoreOther⟩ := List.forall_mem_cons.mp eachOther
          obtain ⟨rfl, later⟩ := first_tells isClose tells otherGood same
          obtain ⟨rfl, rests⟩ := following_tells isClose (fun a mem => (eachMore a mem).2)
            eachMoreOther later
          exact ⟨rfl, rests⟩

end Lists

/-! ## Documents -/

/-- What the first character of a document shows. -/
inductive Shape where
  | null
  | bool
  | number
  | string
  | array
  | object
deriving DecidableEq

def shape : Json → Shape
  | .null => .null
  | .bool _ => .bool
  | .integer _ | .float _ => .number
  | .string _ => .string
  | .array _ => .array
  | .object _ => .object

def shapeOfHead (c : Char) : Option Shape :=
  if c = 'n' then some .null
  else if c = 't' ∨ c = 'f' then some .bool
  else if c = '"' then some .string
  else if c = '[' then some .array
  else if c = '\x7b' then some .object
  else if c = '-' ∨ c.isDigit then some .number
  else none

theorem shapeOfHead_of_number {c : Char} (first : c = '-' ∨ c.isDigit = true) :
    shapeOfHead c = some .number := by
  rcases first with rfl | isDigit
  · rfl
  · have other {d : Char} (notDigit : d.isDigit = false) : c ≠ d := ne_of_isDigit isDigit notDigit
    rw [shapeOfHead, if_neg (other rfl), if_neg (not_or.mpr ⟨other rfl, other rfl⟩),
      if_neg (other rfl), if_neg (other rfl), if_neg (other rfl), if_pos (.inr isDigit)]

theorem head_signed {negative : Bool} {text : List Char}
    (starts : ∃ c ∈ text.head?, c.isDigit = true) :
    ∃ c ∈ (signed negative text).head?, c = '-' ∨ c.isDigit = true := by
  cases negative with
  | false =>
      obtain ⟨c, mem, isDigit⟩ := starts
      exact ⟨c, mem, .inr isDigit⟩
  | true => exact ⟨'-', rfl, .inl rfl⟩

/-- The first character of a document shows its shape. -/
theorem Proper.head {j : Json} (proper : Proper j) :
    ∃ c ∈ (compactChars j).head?, shapeOfHead c = some j.shape := by
  cases proper with
  | null => exact ⟨'n', by simp [compactChars], rfl⟩
  | bool b =>
      cases b with
      | false => exact ⟨'f', by simp [compactChars], rfl⟩
      | true => exact ⟨'t', by simp [compactChars], rfl⟩
  | integer n =>
      rw [compactChars_integer_eq_signed]
      obtain ⟨c, mem, first⟩ : ∃ c ∈ (signed (decide (n < 0)) _).head?, _ :=
        head_signed (head_digitsOf n.natAbs)
      exact ⟨c, mem, shapeOfHead_of_number first⟩
  | float isFinite =>
      obtain ⟨sign, text, value, written, looks⟩ := exists_signed_floatText isFinite
      obtain ⟨c, mem, first⟩ : ∃ c ∈ (signed sign text).head?, _ := head_signed written.starts
      rw [compactChars, looks]
      exact ⟨c, mem, shapeOfHead_of_number first⟩
  | string s => exact ⟨'"', by rw [compactChars]; rfl, rfl⟩
  | array each => exact ⟨'[', by rw [compactChars]; rfl, rfl⟩
  | object each => exact ⟨'\x7b', by rw [compactChars]; rfl, rfl⟩

theorem shape_eq_of_append_eq {j k : Json} {rest tail : List Char} (left : Proper j)
    (right : Proper k) (same : compactChars j ++ rest = compactChars k ++ tail) :
    j.shape = k.shape := by
  obtain ⟨c, mem, shown⟩ := left.head
  obtain ⟨d, otherMem, otherShown⟩ := right.head
  have heads := congrArg List.head? same
  rw [head?_append_of_mem mem, head?_append_of_mem otherMem] at heads
  obtain rfl : c = d := Option.some.inj heads
  exact Option.some.inj (shown.symm.trans otherShown)

theorem quoted_tells {s t : String} {rest tail : List Char}
    (same : quoted s ++ rest = quoted t ++ tail) : s = t ∧ rest = tail := by
  have read := string?_quoted s rest
  rw [same, string?_quoted] at read
  obtain ⟨rfl, rfl⟩ := Prod.mk.inj (Option.some.inj read)
  exact ⟨rfl, rfl⟩

theorem member_tells {member : String × Json} (tells : Tells compactChars Proper member.2) :
    Tells memberChars (fun member => Proper member.2) member := by
  intro other rest tail proper closes closesOther same
  rw [memberChars, memberChars, List.append_assoc, List.append_assoc] at same
  obtain ⟨names, values⟩ := quoted_tells same
  obtain ⟨value, rests⟩ := tells proper closes closesOther (List.cons.inj values).2
  exact ⟨Prod.ext names value, rests⟩

theorem Proper.opens {j : Json} (proper : Proper j) {close : Char}
    (isClose : close = ']' ∨ close = '\x7d') : ∃ c ∈ (compactChars j).head?, c ≠ close := by
  obtain ⟨c, mem, shown⟩ := proper.head
  refine ⟨c, mem, ?_⟩
  rintro rfl
  rcases isClose with rfl | rfl
  · cases shown
  · cases shown

theorem Proper.isNumeric {j : Json} (proper : Proper j) (isNumber : j.shape = .number) :
    ∀ c ∈ compactChars j, isNumeric c = true := by
  cases proper with
  | integer n => exact isNumeric_integer n
  | float isFinite => exact isNumeric_float isFinite
  | _ => cases isNumber

/-- Numbers are told by their texts. -/
theorem Proper.eq_of_number {j k : Json} (proper : Proper j) (other : Proper k)
    (isNumber : j.shape = .number) (otherNumber : k.shape = .number)
    (same : compactChars j = compactChars k) : j = k := by
  cases proper with
  | integer m =>
      cases other with
      | integer n => rw [integer_inj same]
      | float isFinite => exact absurd same (integer_ne_float isFinite)
      | _ => cases otherNumber
  | float isFinite =>
      cases other with
      | integer n => exact absurd same.symm (integer_ne_float isFinite)
      | float otherFinite =>
          rw [compactChars, compactChars, String.toList_inj] at same
          rw [floatText_inj isFinite otherFinite same]
      | _ => cases otherNumber
  | _ => cases isNumber

theorem Proper.tells_number {j : Json} (proper : Proper j) (isNumber : j.shape = .number) :
    Tells compactChars Proper j := by
  intro k rest tail other closes closesOther same
  have otherNumber : k.shape = .number := by
    rw [← shape_eq_of_append_eq proper other same, isNumber]
  obtain ⟨texts, rests⟩ := append_inj_of_kind (proper.isNumeric isNumber)
    (other.isNumeric otherNumber) closes.isNumeric_eq_false closesOther.isNumeric_eq_false same
  exact ⟨proper.eq_of_number other isNumber otherNumber texts, rests⟩

theorem tells_bool (b : Bool) : Tells compactChars Proper (.bool b) := by
  intro k rest tail other _ _ same
  have shapes := shape_eq_of_append_eq (.bool b) other same
  cases other with
  | bool c =>
      rw [compactChars, compactChars] at same
      cases b with
      | false =>
          cases c with
          | false => exact ⟨rfl, List.append_cancel_left same⟩
          | true => cases (List.cons.inj same).1
      | true =>
          cases c with
          | false => cases (List.cons.inj same).1
          | true => exact ⟨rfl, List.append_cancel_left same⟩
  | _ => cases shapes

theorem tells_string (s : String) : Tells compactChars Proper (.string s) := by
  intro k rest tail other _ _ same
  have shapes := shape_eq_of_append_eq (.string s) other same
  cases other with
  | string t =>
      rw [compactChars, compactChars] at same
      obtain ⟨rfl, rests⟩ := quoted_tells same
      exact ⟨rfl, rests⟩
  | _ => cases shapes

theorem tells_array {items : List Json}
    (each : ∀ item ∈ items, Proper item ∧ Tells compactChars Proper item) :
    Tells compactChars Proper (.array items) := by
  intro k rest tail other _ _ same
  have proper : Proper (.array items) := .array fun item mem => (each item mem).1
  have shapes := shape_eq_of_append_eq proper other same
  cases other with
  | array eachOther =>
      rw [compactChars, compactChars, compactItems_eq, compactItems_eq, List.cons_append,
        List.cons_append, List.append_assoc, List.append_assoc, List.singleton_append,
        List.singleton_append] at same
      obtain ⟨rfl, rests⟩ := separated_tells (.inl rfl)
        (fun _ proper => Proper.opens proper (.inl rfl)) each eachOther (List.cons.inj same).2
      exact ⟨rfl, rests⟩
  | _ => cases shapes

theorem tells_object {members : List (String × Json)}
    (each : ∀ member ∈ members, Proper member.2 ∧ Tells compactChars Proper member.2) :
    Tells compactChars Proper (.object members) := by
  intro k rest tail other _ _ same
  have proper : Proper (.object members) := .object fun member mem => (each member mem).1
  have shapes := shape_eq_of_append_eq proper other same
  cases other with
  | object eachOther =>
      rw [compactChars, compactChars, compactMembers_eq, compactMembers_eq, List.cons_append,
        List.cons_append, List.append_assoc, List.append_assoc, List.singleton_append,
        List.singleton_append] at same
      obtain ⟨rfl, rests⟩ := separated_tells (.inr rfl) (fun _ _ => ⟨'"', rfl, by decide⟩)
        (fun member mem => ⟨(each member mem).1, member_tells (each member mem).2⟩) eachOther
        (List.cons.inj same).2
      exact ⟨rfl, rests⟩
  | _ => cases shapes

/-- A document whose numbers are finite is told by its text. -/
theorem Proper.tells {j : Json} (proper : Proper j) : Tells compactChars Proper j := by
  induction proper with
  | null =>
      intro k rest tail other _ _ same
      have shapes := shape_eq_of_append_eq .null other same
      cases other with
      | null => exact ⟨rfl, List.append_cancel_left same⟩
      | _ => cases shapes
  | bool b => exact tells_bool b
  | integer n => exact Proper.tells_number (.integer n) rfl
  | float isFinite => exact Proper.tells_number (.float isFinite) rfl
  | string s => exact tells_string s
  | array each ih => exact tells_array fun item mem => ⟨each item mem, ih item mem⟩
  | object each ih => exact tells_object fun member mem => ⟨each member mem, ih member mem⟩

/-- Documents with the same compact text are the same. -/
theorem compact_inj {j k : Json} (left : Proper j) (right : Proper k)
    (same : j.compact = k.compact) : j = k := by
  have texts : compactChars j = compactChars k := String.ofList_inj.mp same
  have nothing : Closes [] := trivial
  exact (left.tells right nothing nothing (by rw [texts])).1

/-! ## Zero characters -/

theorem zero_notMem_escape (c : Char) : '\x00' ∉ escape c := by
  unfold escape
  split_ifs with quote backslash backspace formFeed newline carriage tab control
  · decide
  · decide
  · decide
  · decide
  · decide
  · decide
  · decide
  · have hexDigit_ne : ∀ n < 16, '\x00' ≠ hexDigit n := by decide
    simp only [List.mem_cons, List.not_mem_nil, or_false, not_or]
    exact ⟨by decide, by decide, by decide, by decide, hexDigit_ne _ (by omega),
      hexDigit_ne _ (by omega)⟩
  · rw [List.mem_singleton]
    rintro rfl
    exact control (by decide)

theorem zero_notMem_quoted (s : String) : '\x00' ∉ quoted s := by
  simp only [quoted, List.mem_cons, List.mem_append, List.mem_flatMap, List.not_mem_nil, or_false]
  rintro (quote | ⟨c, -, mem⟩ | quote)
  · cases quote
  · exact zero_notMem_escape c mem
  · cases quote

theorem zero_notMem_separated {α : Type} {write : α → List Char} {items : List α}
    (each : ∀ item ∈ items, '\x00' ∉ write item) : '\x00' ∉ separated write items := by
  induction items with
  | nil =>
      rw [separated_nil]
      exact List.not_mem_nil
  | cons item more ih =>
      have first := each item List.mem_cons_self
      have later := ih fun other mem => each other (List.mem_cons_of_mem _ mem)
      cases more with
      | nil =>
          rw [separated_singleton]
          exact first
      | cons next others =>
          rw [separated_cons_cons, List.mem_append, List.mem_cons, not_or, not_or]
          exact ⟨first, by decide, later⟩

theorem zero_notMem_of_isNumeric {text : List Char} (numeric : ∀ c ∈ text, isNumeric c = true) :
    '\x00' ∉ text := by
  intro mem
  cases numeric _ mem

/-- The text of a document holds no zero character, since strings have it escaped. -/
theorem Proper.zero_notMem {j : Json} (proper : Proper j) : '\x00' ∉ compactChars j := by
  induction proper with
  | null => simp [compactChars]
  | bool b => cases b <;> simp [compactChars]
  | integer n => exact zero_notMem_of_isNumeric (isNumeric_integer n)
  | float isFinite => exact zero_notMem_of_isNumeric (isNumeric_float isFinite)
  | string s =>
      rw [compactChars]
      exact zero_notMem_quoted s
  | array each ih =>
      have inside := zero_notMem_separated ih
      rw [compactChars, compactItems_eq, List.mem_cons, List.mem_append, List.mem_singleton]
      simp [inside]
  | object each ih =>
      have inside : '\x00' ∉ separated memberChars _ := zero_notMem_separated fun member mem => by
        rw [memberChars, List.mem_append, List.mem_cons, not_or, not_or]
        exact ⟨zero_notMem_quoted member.1, by decide, ih member mem⟩
      rw [compactChars, compactMembers_eq, List.mem_cons, List.mem_append, List.mem_singleton]
      simp [inside]

end EditGuard.Json
