import EditGuard.Number.Numeral
import EditGuard.Proofs.Splitting
import Mathlib.Data.List.TakeDrop
import Mathlib.Data.List.TakeWhile

/-!
# The grammar of numerals

A numeral is a word of `[+-]? (D+ ('.' D*)? | '.' D+) ([eE] [+-]? D+)?` with decimal digits `D`.
Reading the head of a text gives the longest of its beginnings that are in this grammar.  The
parts of a word are read one after the other, and each part goes on as long as it can; so a part
takes more than a given word has only where nothing of the word comes after it.
-/

namespace EditGuard.Numeral

/-! ## The grammar -/

/-- A row of digits, which may be empty. -/
def AllDigits (ds : List Char) : Prop :=
  ∀ d ∈ ds, d.isDigit = true

/-- Nothing, or a sign; and whether it is a minus. -/
inductive SpellsSign : Bool → List Char → Prop
  | nothing : SpellsSign false []
  | plus : SpellsSign false ['+']
  | minus : SpellsSign true ['-']

/-- Digits, digits with a fraction, or a fraction alone with digits after its point. -/
inductive SpellsMagnitude : List Char → Option (List Char) → List Char → Prop
  | whole {ds : List Char} (notEmpty : ds ≠ []) (digits : AllDigits ds) :
      SpellsMagnitude ds none ds
  | fraction {ds fs : List Char} (notEmpty : ds ≠ []) (digits : AllDigits ds)
      (more : AllDigits fs) : SpellsMagnitude ds (some fs) (ds ++ '.' :: fs)
  | point {fs : List Char} (notEmpty : fs ≠ []) (digits : AllDigits fs) :
      SpellsMagnitude [] (some fs) ('.' :: fs)

/-- Nothing, or an exponent. -/
inductive SpellsExponent : Option (Bool × List Char) → List Char → Prop
  | nothing : SpellsExponent none []
  | exponent {mark : Char} {negative : Bool} {sign ds : List Char}
      (isMark : mark = 'e' ∨ mark = 'E') (signed : SpellsSign negative sign)
      (notEmpty : ds ≠ []) (digits : AllDigits ds) :
      SpellsExponent (some (negative, ds)) (mark :: (sign ++ ds))

/-- A word of the grammar and its parts. -/
inductive Spells : Numeral → List Char → Prop
  | word {negative : Bool} {whole : List Char} {fraction : Option (List Char)}
      {exponent : Option (Bool × List Char)} {sign magnitude power : List Char}
      (signed : SpellsSign negative sign) (measured : SpellsMagnitude whole fraction magnitude)
      (scaled : SpellsExponent exponent power) :
      Spells ⟨negative, whole, fraction, exponent⟩ (sign ++ (magnitude ++ power))

/-- The longest beginning of a text that is in the grammar. -/
structure IsLongest (n : Numeral) (lexeme text : List Char) : Prop where
  spells : n.Spells lexeme
  atHead : lexeme <+: text
  longest : ∀ (other : Numeral) (word : List Char), other.Spells word → word <+: text →
    word.length ≤ lexeme.length

/-! ## Fractions -/

/-- Nothing, or a point and digits.  At least one digit has to be there, before the point or
after it. -/
inductive SpellsFraction (whole : List Char) : Option (List Char) → List Char → Prop
  | nothing : SpellsFraction whole none []
  | point {fs : List Char} (digits : AllDigits fs) (notEmpty : whole ≠ [] ∨ fs ≠ []) :
      SpellsFraction whole (some fs) ('.' :: fs)

/-- A magnitude is a row of digits and a fraction, of which not both are missing. -/
theorem spellsMagnitude_iff {whole magnitude : List Char} {fraction : Option (List Char)} :
    SpellsMagnitude whole fraction magnitude ↔
      ∃ f, magnitude = whole ++ f ∧ AllDigits whole ∧ SpellsFraction whole fraction f ∧
        (whole = [] → fraction ≠ none) := by
  constructor
  · intro spells
    cases spells with
    | whole notEmpty digits =>
        refine ⟨[], (List.append_nil _).symm, digits, .nothing, ?_⟩
        exact fun empty => absurd empty notEmpty
    | fraction notEmpty digits more =>
        exact ⟨_, rfl, digits, .point more (.inl notEmpty), nofun⟩
    | point notEmpty digits =>
        exact ⟨_, rfl, nofun, .point digits (.inr notEmpty), nofun⟩
  · rintro ⟨f, rfl, digits, spells, present⟩
    cases spells with
    | nothing =>
        rw [List.append_nil]
        exact .whole (fun empty => present empty rfl) digits
    | point more notEmpty =>
        by_cases empty : whole = []
        · subst empty
          exact .point (notEmpty.resolve_left (absurd rfl)) more
        · exact .fraction empty digits more

/-! ## What is read of a text -/

theorem digits_eq (cs : List Char) :
    digits cs = (cs.takeWhile Char.isDigit, cs.dropWhile Char.isDigit) :=
  List.span_eq_takeWhile_dropWhile _ cs

section Read

variable {cs rest : List Char}

theorem of_sign {negative : Bool} (read : sign cs = (negative, rest)) :
    ∃ s, cs = s ++ rest ∧ SpellsSign negative s := by
  revert read
  fun_cases sign cs
  all_goals rintro ⟨⟩
  case case1 => exact ⟨['+'], rfl, .plus⟩
  case case2 => exact ⟨['-'], rfl, .minus⟩
  case case3 => exact ⟨[], rfl, .nothing⟩

theorem of_digits {ds : List Char} (read : digits cs = (ds, rest)) :
    cs = ds ++ rest ∧ AllDigits ds := by
  rw [digits_eq] at read
  cases read
  exact ⟨List.takeWhile_append_dropWhile.symm, fun d mem => List.mem_takeWhile_imp mem⟩

theorem of_point {whole : List Char} {fraction : Option (List Char)}
    (read : point whole cs = (fraction, rest)) :
    ∃ f, cs = f ++ rest ∧ SpellsFraction whole fraction f := by
  revert read
  fun_cases point whole cs
  all_goals rintro ⟨⟩
  case case1 => exact ⟨[], rfl, .nothing⟩
  case case2 cs fs present taken =>
    obtain ⟨rfl, all⟩ := of_digits taken
    refine ⟨'.' :: fs, rfl, .point all ?_⟩
    rwa [Bool.and_eq_true, List.isEmpty_iff, List.isEmpty_iff, not_and_or] at present
  case case3 => exact ⟨[], rfl, .nothing⟩

theorem of_power {exponent : Option (Bool × List Char)} (read : power cs = (exponent, rest)) :
    ∃ p, cs = p ++ rest ∧ SpellsExponent exponent p := by
  revert read
  fun_cases power cs
  all_goals rintro ⟨⟩
  case case2 mark afterMark isMark negative afterSign signRead ds present taken =>
    obtain ⟨s, rfl, signed⟩ := of_sign signRead
    obtain ⟨rfl, all⟩ := of_digits taken
    refine ⟨mark :: (s ++ ds), ?_, .exponent isMark signed ?_ all⟩
    · rw [List.cons_append, List.append_assoc]
    · rwa [List.isEmpty_iff] at present
  all_goals exact ⟨[], rfl, .nothing⟩

/-- What is read is in the grammar. -/
theorem of_scan {n : Numeral} (read : scan cs = some (n, rest)) :
    ∃ lexeme, cs = lexeme ++ rest ∧ n.Spells lexeme := by
  revert read
  fun_cases scan cs
  all_goals rintro ⟨⟩
  case case2 negative afterSign signRead whole afterWhole taken fraction afterFraction pointRead
      present exponent powerRead =>
    obtain ⟨s, rfl, signed⟩ := of_sign signRead
    obtain ⟨rfl, all⟩ := of_digits taken
    obtain ⟨f, rfl, divided⟩ := of_point pointRead
    obtain ⟨p, rfl, scaled⟩ := of_power powerRead
    have measured : SpellsMagnitude whole fraction (whole ++ f) := by
      refine spellsMagnitude_iff.mpr ⟨f, rfl, all, divided, ?_⟩
      rwa [Bool.and_eq_true, List.isEmpty_iff, Option.isNone_iff_eq_none, not_and] at present
    exact ⟨_, by simp only [List.append_assoc], .word signed measured scaled⟩

end Read

/-! ## How far a text is read -/

/-- What is read in front of the next parts of a word and the rest of a text: a part exactly, or
more if nothing comes next. -/
def Reads {α : Type} (read : α × List Char) (part : α) (next rest : List Char) : Prop :=
  read = (part, next ++ rest) ∨ (next = [] ∧ read.2.length < rest.length)

theorem Reads.beyond {α : Type} {taken part : α} {c : Char} {cs left rest : List Char}
    (text : rest = c :: cs ++ left) : Reads (taken, left) part [] rest := by
  refine .inr ⟨rfl, ?_⟩
  have lengths := congrArg List.length text
  rw [List.length_append, List.length_cons] at lengths
  change left.length < rest.length
  omega

section Parts

variable {negative : Bool} {whole ds s f p next cs : List Char} {fraction : Option (List Char)}
  {exponent : Option (Bool × List Char)} {rest : List Char}

/-- An exponent does not begin with a digit. -/
theorem SpellsExponent.head (scaled : SpellsExponent exponent p) :
    ∀ c ∈ p.head?, c.isDigit = false := by
  cases scaled with
  | nothing => nofun
  | exponent isMark =>
      rintro c ⟨⟩
      rcases isMark with rfl | rfl <;> decide

/-- What comes after whole digits does not begin with a digit. -/
theorem SpellsFraction.head_append (divided : SpellsFraction whole fraction f)
    (scaled : SpellsExponent exponent p) : ∀ c ∈ (f ++ p).head?, c.isDigit = false := by
  cases divided with
  | nothing => exact scaled.head
  | point =>
      rintro c ⟨⟩
      decide

theorem sign_append (signed : SpellsSign negative s)
    (unsigned : ∀ c ∈ cs.head?, c ≠ '+' ∧ c ≠ '-') : sign (s ++ cs) = (negative, cs) := by
  cases signed with
  | nothing =>
      refine sign.eq_3 cs ?_ ?_
      · rintro rest rfl
        exact (unsigned _ rfl).1 rfl
      · rintro rest rfl
        exact (unsigned _ rfl).2 rfl
  | plus => rfl
  | minus => rfl

/-- A sign is told from what follows it, a row of digits for example. -/
theorem unsigned_of_isDigit (notEmpty : ds ≠ []) (all : AllDigits ds) (cs : List Char) :
    ∀ c ∈ (ds ++ cs).head?, c ≠ '+' ∧ c ≠ '-' := by
  obtain ⟨d, more, rfl⟩ := List.exists_cons_of_ne_nil notEmpty
  rintro c ⟨⟩
  have isDigit := all d List.mem_cons_self
  constructor <;> rintro rfl <;> contradiction

theorem digits_append (all : AllDigits ds) (cs : List Char) :
    digits (ds ++ cs) = (ds ++ (digits cs).1, (digits cs).2) := by
  rw [digits_eq, digits_eq, List.takeWhile_append_of_pos all, List.dropWhile_append_of_pos all]

theorem digits_reads (all : AllDigits ds) (ends : ∀ c ∈ next.head?, c.isDigit = false)
    (rest : List Char) : Reads (digits (ds ++ (next ++ rest))) ds next rest := by
  rw [digits_append all]
  rcases read : digits (next ++ rest) with ⟨more, left⟩
  obtain ⟨text, allMore⟩ := of_digits read
  cases more with
  | nil => exact .inl (by rw [text, List.append_nil, List.nil_append])
  | cons d more =>
      cases next with
      | nil => exact Reads.beyond text
      | cons c next =>
          obtain ⟨rfl, -⟩ := List.cons.inj text
          exact absurd (allMore c List.mem_cons_self) (by simp [ends c rfl])

theorem point_of_digits (read : digits cs = (ds, rest)) (notEmpty : whole ≠ [] ∨ ds ≠ []) :
    point whole ('.' :: cs) = (some ds, rest) := by
  have present : ¬ (whole.isEmpty && ds.isEmpty) = true := by
    rwa [Bool.and_eq_true, List.isEmpty_iff, List.isEmpty_iff, not_and_or]
  simp only [point, read]
  exact if_neg present

theorem point_reads (divided : SpellsFraction whole fraction f)
    (scaled : SpellsExponent exponent next) (rest : List Char) :
    Reads (point whole (f ++ (next ++ rest))) fraction next rest := by
  cases divided with
  | nothing =>
      rw [List.nil_append]
      rcases read : point whole (next ++ rest) with ⟨taken, left⟩
      obtain ⟨f, text, divided⟩ := of_point read
      cases divided with
      | nothing => exact .inl (by rw [text, List.nil_append])
      | point =>
          cases scaled with
          | nothing => exact Reads.beyond text
          | exponent isMark =>
              obtain ⟨rfl, -⟩ := List.cons.inj text
              rcases isMark with mark | mark <;> cases mark
  | point all notEmpty =>
      rcases digits_reads all scaled.head rest with read | ⟨rfl, beyond⟩
      · exact .inl (point_of_digits read notEmpty)
      · rw [digits_append all] at beyond
        have more := notEmpty.imp_right fun present =>
          List.append_ne_nil_of_left_ne_nil present (digits ([] ++ rest)).1
        refine .inr ⟨rfl, ?_⟩
        rw [List.cons_append, point_of_digits (digits_append all _) more]
        exact beyond

theorem power_of_digits {mark : Char} {afterSign : List Char} (isMark : mark = 'e' ∨ mark = 'E')
    (signRead : sign cs = (negative, afterSign)) (read : digits afterSign = (ds, rest))
    (notEmpty : ds ≠ []) : power (mark :: cs) = (some (negative, ds), rest) := by
  have present : ¬ ds.isEmpty = true := by rwa [List.isEmpty_iff]
  simp only [power, if_pos isMark, signRead, read]
  exact if_neg present

theorem power_reads (scaled : SpellsExponent exponent p) (rest : List Char) :
    Reads (power (p ++ rest)) exponent [] rest := by
  cases scaled with
  | nothing =>
      rw [List.nil_append]
      rcases read : power rest with ⟨taken, left⟩
      obtain ⟨p, text, scaled⟩ := of_power read
      cases scaled with
      | nothing => exact .inl (by rw [text]; rfl)
      | exponent => exact Reads.beyond text
  | exponent isMark signed notEmpty all =>
      rename_i mark negative s ds
      have signRead := sign_append signed (unsigned_of_isDigit notEmpty all rest)
      rw [← List.append_assoc] at signRead
      have reads : Reads (digits (ds ++ rest)) ds [] rest :=
        @digits_reads ds [] all (fun _ mem => nomatch mem) rest
      rcases reads with read | ⟨-, beyond⟩
      · exact .inl (power_of_digits isMark signRead read notEmpty)
      · rw [digits_append all] at beyond
        have more : ds ++ (digits rest).1 ≠ [] := List.append_ne_nil_of_left_ne_nil notEmpty _
        refine .inr ⟨rfl, ?_⟩
        rw [List.cons_append, power_of_digits isMark signRead (digits_append all _) more]
        exact beyond

theorem length_of_point (read : point whole cs = (fraction, rest)) : rest.length ≤ cs.length := by
  obtain ⟨f, rfl, -⟩ := of_point read
  simp

theorem length_of_power (read : power cs = (exponent, rest)) : rest.length ≤ cs.length := by
  obtain ⟨p, rfl, -⟩ := of_power read
  simp

section Magnitude

variable {magnitude whole' afterWhole afterFraction : List Char} {fraction' : Option (List Char)}

/-- A magnitude does not begin with a sign. -/
theorem SpellsMagnitude.unsigned (measured : SpellsMagnitude whole fraction magnitude)
    (cs : List Char) : ∀ c ∈ (magnitude ++ cs).head?, c ≠ '+' ∧ c ≠ '-' := by
  cases measured with
  | whole notEmpty all => exact unsigned_of_isDigit notEmpty all cs
  | fraction notEmpty all =>
      rw [List.append_assoc]
      exact unsigned_of_isDigit notEmpty all _
  | point =>
      rintro c ⟨⟩
      decide

theorem SpellsMagnitude.ne_nil (measured : SpellsMagnitude whole fraction magnitude) :
    magnitude ≠ [] := by
  cases measured with
  | whole notEmpty => exact notEmpty
  | fraction => simp
  | point => simp

/-- A magnitude is read in two parts.  Where the whole digits go beyond it, the fraction is
missing in it. -/
theorem magnitude_reads (measured : SpellsMagnitude whole fraction magnitude)
    (scaled : SpellsExponent exponent next)
    (wholeRead : digits (magnitude ++ (next ++ rest)) = (whole', afterWhole))
    (pointRead : point whole' afterWhole = (fraction', afterFraction)) :
    Reads ((whole', fraction'), afterFraction) (whole, fraction) next rest := by
  obtain ⟨f, rfl, all, divided, -⟩ := spellsMagnitude_iff.mp measured
  have wholeReads := digits_reads all (divided.head_append scaled) rest
  rw [List.append_assoc, ← List.append_assoc f] at wholeRead
  rw [wholeRead] at wholeReads
  rcases wholeReads with same | ⟨nothing, beyond⟩
  · obtain ⟨rfl, rfl⟩ := Prod.mk.inj same
    -- The word's own whole digits have been read, so its fraction is where reading goes on.
    have pointReads := point_reads divided scaled rest
    rw [← List.append_assoc, pointRead] at pointReads
    rcases pointReads with same | beyond
    · obtain ⟨rfl, rfl⟩ := Prod.mk.inj same
      exact .inl rfl
    · exact .inr beyond
  · have notLonger := length_of_point pointRead
    exact .inr ⟨(List.append_eq_nil_iff.mp nothing).2, Nat.lt_of_le_of_lt notLonger beyond⟩

end Magnitude

/-- The parts that are read make a numeral if something is read between sign and exponent. -/
theorem scan_of_parts {afterSign afterWhole afterFraction : List Char}
    (signRead : sign cs = (negative, afterSign))
    (wholeRead : digits afterSign = (whole, afterWhole))
    (pointRead : point whole afterWhole = (fraction, afterFraction))
    (powerRead : power afterFraction = (exponent, rest))
    (shorter : afterFraction.length < afterSign.length) :
    scan cs = some (⟨negative, whole, fraction, exponent⟩, rest) := by
  have present : ¬ (whole.isEmpty && fraction.isNone) = true := by
    rw [Bool.and_eq_true, List.isEmpty_iff, Option.isNone_iff_eq_none]
    rintro ⟨rfl, rfl⟩
    obtain ⟨rfl, -⟩ := of_digits wholeRead
    obtain ⟨f, rfl, divided⟩ := of_point pointRead
    cases divided
    exact Nat.lt_irrefl _ shorter
  simp only [scan, signRead, wholeRead, pointRead, powerRead]
  exact if_neg present

end Parts

/-- A text that begins with a word of the grammar is read as that word, or beyond it. -/
theorem scan_reads {n : Numeral} {lexeme : List Char} (spells : n.Spells lexeme)
    (rest : List Char) :
    ∃ read, scan (lexeme ++ rest) = some read ∧ Reads read n [] rest := by
  obtain ⟨signed, measured, scaled⟩ := spells
  rename_i negative whole fraction exponent s magnitude p
  have text : s ++ (magnitude ++ p) ++ rest = s ++ (magnitude ++ (p ++ rest)) := by
    simp only [List.append_assoc]
  rw [text]
  -- The parts that are read, which need not be those of the word.
  rcases wholeRead : digits (magnitude ++ (p ++ rest)) with ⟨whole', afterWhole⟩
  rcases pointRead : point whole' afterWhole with ⟨fraction', afterFraction⟩
  rcases powerRead : power afterFraction with ⟨exponent', left⟩
  have signRead := sign_append signed (measured.unsigned (p ++ rest))
  have reads := magnitude_reads measured scaled wholeRead pointRead
  have notLonger := length_of_power powerRead
  have shorter : afterFraction.length < (magnitude ++ (p ++ rest)).length := by
    have notEmpty := List.length_pos_iff.mpr measured.ne_nil
    simp only [List.length_append]
    rcases reads with same | ⟨-, beyond⟩
    · cases same
      simp only [List.length_append]
      omega
    · dsimp only at beyond
      omega
  refine ⟨_, scan_of_parts signRead wholeRead pointRead powerRead shorter, ?_⟩
  rcases reads with same | ⟨-, beyond⟩
  · cases same
    have powerReads := power_reads scaled rest
    rw [powerRead] at powerReads
    rcases powerReads with same | beyond
    · cases same
      exact .inl rfl
    · exact .inr beyond
  · exact .inr ⟨rfl, Nat.lt_of_le_of_lt notLonger beyond⟩

/-! ## The longest numeral -/

section Longest

variable {cs lexeme rest : List Char} {n m : Numeral}

/-- A word of the grammar is read as a whole. -/
theorem Spells.scan (spells : n.Spells lexeme) : scan lexeme = some (n, []) := by
  obtain ⟨read, found, reads⟩ := scan_reads spells []
  rw [List.append_nil] at found
  rcases reads with rfl | ⟨-, beyond⟩
  · exact found
  · exact absurd beyond (Nat.not_lt_zero _)

/-- A text is read to its end if and only if all of it is in the grammar. -/
theorem scan_eq_some_nil_iff : scan cs = some (n, []) ↔ n.Spells cs := by
  constructor
  · intro found
    obtain ⟨lexeme, rfl, spells⟩ := of_scan found
    rwa [List.append_nil]
  · exact Spells.scan

theorem Spells.isLongest (spells : n.Spells cs) : n.IsLongest cs cs :=
  ⟨spells, List.prefix_rfl, fun _ _ _ atHead => atHead.length_le⟩

/-- A word of the grammar has one reading only. -/
theorem Spells.unique (spells : n.Spells lexeme) (other : m.Spells lexeme) : n = m := by
  have same := spells.scan.symm.trans other.scan
  cases same
  rfl

/-- What is read is the longest beginning in the grammar. -/
theorem scan_eq_some_iff : scan cs = some (n, rest) ↔
    ∃ lexeme, cs = lexeme ++ rest ∧ n.IsLongest lexeme cs := by
  constructor
  · intro found
    obtain ⟨lexeme, rfl, spells⟩ := of_scan found
    refine ⟨lexeme, rfl, spells, List.prefix_append _ _, ?_⟩
    rintro other word spellsWord ⟨more, text⟩
    obtain ⟨read, foundToo, reads⟩ := scan_reads spellsWord more
    rw [text, found] at foundToo
    cases foundToo
    have lengths := congrArg List.length text
    simp only [List.length_append] at lengths
    rcases reads with same | ⟨-, beyond⟩
    · cases same
      simp only [List.nil_append] at lengths
      omega
    · dsimp only at beyond
      omega
  · rintro ⟨lexeme, rfl, spells, -, longest⟩
    obtain ⟨⟨m, left⟩, found, reads⟩ := scan_reads spells rest
    rcases reads with same | ⟨-, beyond⟩
    · cases same
      exact found
    · obtain ⟨word, text, spellsWord⟩ := of_scan found
      have notLonger := longest m word spellsWord ⟨left, text.symm⟩
      have lengths := congrArg List.length text
      simp only [List.length_append] at lengths beyond
      omega

theorem exists_isLongest_iff :
    (∃ lexeme, n.IsLongest lexeme cs) ↔ ∃ rest, scan cs = some (n, rest) := by
  constructor
  · rintro ⟨lexeme, longest⟩
    obtain ⟨rest, text⟩ := longest.atHead
    exact ⟨rest, scan_eq_some_iff.mpr ⟨lexeme, text.symm, longest⟩⟩
  · rintro ⟨rest, found⟩
    obtain ⟨lexeme, -, longest⟩ := scan_eq_some_iff.mp found
    exact ⟨lexeme, longest⟩

/-- Nothing is read where no beginning is in the grammar. -/
theorem scan_eq_none_iff :
    scan cs = none ↔ ∀ (n : Numeral) (word : List Char), n.Spells word → ¬ word <+: cs := by
  constructor
  · rintro nothing n word spells ⟨more, rfl⟩
    obtain ⟨read, found, -⟩ := scan_reads spells more
    rw [nothing] at found
    cases found
  · intro noWord
    rcases found : scan cs with _ | ⟨n, rest⟩
    · rfl
    · obtain ⟨lexeme, text, spells⟩ := of_scan found
      exact absurd ⟨rest, text.symm⟩ (noWord n lexeme spells)

end Longest

end EditGuard.Numeral
