import EditGuard.Pattern
import EditGuard.Proofs.Decimal.Digits
import EditGuard.Proofs.Splitting
import Mathlib.Data.List.TakeWhile

/-!
# References in replacements

A replacement is a row of parts: references to groups, each of which takes all the digits after
its mark, and single characters.  It has one such reading.  The template that is made of it has
a reference in braces for each reference and an escaped character for each other dollar sign, so
whatever expands templates by their rules puts groups in place of the references and leaves all
other characters alone.
-/

namespace EditGuard.Pattern.Template

/-! ## Parts of a replacement -/

/-- A part of a replacement: a reference to a group, with its mark, or a character that stands
for itself. -/
inductive Part where
  | reference (mark : Char) (digits : List Char)
  | character (c : Char)
deriving Repr, DecidableEq

/-- The characters that begin references where digits follow. -/
def IsMark (c : Char) : Prop :=
  c = '\\' ∨ c = '$'

theorem isMark_iff {c : Char} : IsMark c ↔ (c == '\\' || c == '$') = true := by
  rw [IsMark, Bool.or_eq_true, beq_iff_eq, beq_iff_eq]

/-- Whether a text does not begin with a digit. -/
def NoDigit (cs : List Char) : Prop :=
  ∀ d ∈ cs.head?, d.isDigit = false

/-- The parts of a replacement.  A reference takes all the digits that follow its mark, and a
mark without digits is a character like any other. -/
inductive Reads : List Char → List Part → Prop
  | nothing : Reads [] []
  | reference {mark : Char} {digits rest : List Char} {parts : List Part} (isMark : IsMark mark)
      (notEmpty : digits ≠ []) (all : ∀ d ∈ digits, d.isDigit = true) (maximal : NoDigit rest)
      (more : Reads rest parts) :
      Reads (mark :: (digits ++ rest)) (.reference mark digits :: parts)
  | character {c : Char} {rest : List Char} {parts : List Part} (single : IsMark c → NoDigit rest)
      (more : Reads rest parts) : Reads (c :: rest) (.character c :: parts)

/-- What a part stands for: the text of the group with the number that the digits write, which
is empty if there is no such group or it took no part in the match, or the character itself. -/
def Part.text (group? : Nat → Option (List Char)) : Part → List Char
  | reference _ digits => (group? (Nat.ofDigitChars 10 digits 0)).getD []
  | character c => [c]

/-- How a part is written in a template. -/
def Part.inTemplate : Part → List Char
  | reference _ digits => '$' :: '\x7b' :: (digits ++ ['\x7d'])
  | character c => if c = '$' then ['$', '$'] else [c]

/-! ## Reading a replacement -/

theorem noDigit_dropWhile (cs : List Char) : NoDigit (cs.dropWhile Char.isDigit) := by
  intro d first
  have ends := List.head?_dropWhile_not Char.isDigit cs
  rw [Option.mem_def.mp first] at ends
  exact ends

theorem noDigit_of_takeWhile {cs : List Char} (empty : cs.takeWhile Char.isDigit = []) :
    NoDigit cs := by
  have kept : cs.takeWhile Char.isDigit ++ cs.dropWhile Char.isDigit = cs :=
    List.takeWhile_append_dropWhile
  rw [empty, List.nil_append] at kept
  exact kept ▸ noDigit_dropWhile cs

theorem takeWhile_of_noDigit {cs : List Char} (noDigit : NoDigit cs) :
    cs.takeWhile Char.isDigit = [] :=
  (takeWhile_append_eq (List.forall_mem_nil _) noDigit).1

/-- Every text can be read as a replacement. -/
theorem exists_reads (cs : List Char) : ∃ parts, Reads cs parts := by
  fun_induction ofReferences cs with
  | case1 => exact ⟨[], .nothing⟩
  | case2 mark cs digits begins ih =>
      obtain ⟨parts, more⟩ := ih
      rw [Bool.and_eq_true, ← isMark_iff, Bool.not_eq_true', List.isEmpty_eq_false_iff] at begins
      have all : ∀ d ∈ digits, d.isDigit = true := fun d mem => List.mem_takeWhile_imp mem
      have reads := Reads.reference begins.1 begins.2 all (noDigit_dropWhile cs) more
      rw [List.takeWhile_append_dropWhile] at reads
      exact ⟨_, reads⟩
  | case3 c cs digits other _ ih | case4 c cs digits other _ ih =>
      obtain ⟨parts, more⟩ := ih
      refine ⟨.character c :: parts, .character (fun isMark => ?_) more⟩
      apply noDigit_of_takeWhile
      rw [isMark_iff.mp isMark, Bool.true_and, Bool.not_eq_true', Bool.not_eq_false] at other
      exact List.isEmpty_iff.mp other

/-- A replacement is read in one way. -/
theorem Reads.unique {cs : List Char} {parts others : List Part} (reads : Reads cs parts)
    (other : Reads cs others) : others = parts := by
  induction reads generalizing others with
  | nothing =>
      cases other
      rfl
  | reference isMark notEmpty all maximal more ih =>
      generalize same : _ :: (_ ++ _) = text at other
      cases other with
      | nothing => cases same
      | reference _ _ allOther maximalOther moreOther =>
          obtain ⟨rfl, behind⟩ := List.cons.inj same
          obtain ⟨rfl, rfl⟩ := append_inj_of_kind all allOther maximal maximalOther behind
          rw [ih moreOther]
      | character single =>
          obtain ⟨rfl, rfl⟩ := List.cons.inj same
          obtain ⟨d, ds, rfl⟩ := List.exists_cons_of_ne_nil notEmpty
          have digit := all d List.mem_cons_self
          rw [single isMark d rfl] at digit
          cases digit
  | character single more ih =>
      generalize same : _ :: _ = text at other
      cases other with
      | nothing => cases same
      | reference isMark notEmpty all =>
          obtain ⟨rfl, rfl⟩ := List.cons.inj same
          obtain ⟨d, ds, rfl⟩ := List.exists_cons_of_ne_nil notEmpty
          have digit := all d List.mem_cons_self
          rw [single isMark d rfl] at digit
          cases digit
      | character _ moreOther =>
          obtain ⟨rfl, rfl⟩ := List.cons.inj same
          rw [ih moreOther]

/-! ## Templates of replacements -/

theorem ofReferences_reference {mark : Char} {digits rest : List Char} (isMark : IsMark mark)
    (notEmpty : digits ≠ []) (all : ∀ d ∈ digits, d.isDigit = true) (maximal : NoDigit rest) :
    ofReferences (mark :: (digits ++ rest)) =
      (Part.reference mark digits).inTemplate ++ ofReferences rest := by
  obtain ⟨taken, left⟩ := takeWhile_append_eq all maximal
  have begins : ((mark == '\\' || mark == '$') && !digits.isEmpty) = true := by
    rw [isMark_iff.mp isMark, Bool.true_and, Bool.not_eq_true', List.isEmpty_eq_false_iff]
    exact notEmpty
  rw [ofReferences, taken, left, if_pos begins]
  simp [Part.inTemplate]

theorem ofReferences_character {c : Char} {rest : List Char} (single : IsMark c → NoDigit rest) :
    ofReferences (c :: rest) = (Part.character c).inTemplate ++ ofReferences rest := by
  have other : ¬((c == '\\' || c == '$') && !(rest.takeWhile Char.isDigit).isEmpty) = true := by
    intro begins
    obtain ⟨isMark, notEmpty⟩ := Bool.and_eq_true_iff.mp begins
    rw [takeWhile_of_noDigit (single (isMark_iff.mpr isMark))] at notEmpty
    cases notEmpty
  rw [ofReferences, if_neg other, Part.inTemplate]
  by_cases dollar : c = '$'
  · simp [dollar]
  · simp [dollar]

/-- The template of a replacement is made part by part. -/
theorem Reads.ofReferences {cs : List Char} {parts : List Part} (reads : Reads cs parts) :
    ofReferences cs = parts.flatMap Part.inTemplate := by
  induction reads with
  | nothing => exact ofReferences.eq_1
  | reference isMark notEmpty all maximal _ ih =>
      rw [ofReferences_reference isMark notEmpty all maximal, ih, List.flatMap_cons]
  | character single _ ih => rw [ofReferences_character single, ih, List.flatMap_cons]

/-! ## Expanding templates -/

/-- The rules by which templates are expanded: a number in braces after a dollar sign stands for
the text of the group, two dollar signs for one, and a text without them for itself. -/
structure Expands (group? : Nat → Option (List Char)) (expander : List Char → List Char) :
    Prop where
  nothing : expander [] = []
  dollar : ∀ cs, expander ('$' :: '$' :: cs) = '$' :: expander cs
  group : ∀ digits cs, digits ≠ [] → (∀ d ∈ digits, d.isDigit = true) →
    expander ('$' :: '\x7b' :: (digits ++ '\x7d' :: cs)) =
      (group? (Nat.ofDigitChars 10 digits 0)).getD [] ++ expander cs
  literal : ∀ c cs, c ≠ '$' → expander (c :: cs) = c :: expander cs

variable {group? : Nat → Option (List Char)} {expander : List Char → List Char}

/-- Whatever expands templates puts the texts of the parts in the place of the parts. -/
theorem Expands.parts (expands : Expands group? expander) {cs : List Char} {parts : List Part}
    (reads : Reads cs parts) :
    expander (parts.flatMap Part.inTemplate) = parts.flatMap (Part.text group?) := by
  induction reads with
  | nothing => exact expands.nothing
  | @reference mark digits rest parts isMark notEmpty all maximal _ ih =>
      have front : (Part.reference mark digits :: parts).flatMap Part.inTemplate =
          '$' :: '\x7b' :: (digits ++ '\x7d' :: parts.flatMap Part.inTemplate) := by
        simp [Part.inTemplate]
      rw [front, expands.group digits _ notEmpty all, ih, List.flatMap_cons, Part.text]
  | @character c rest parts single _ ih =>
      rw [List.flatMap_cons, List.flatMap_cons, Part.inTemplate, Part.text, List.singleton_append]
      by_cases dollar : c = '$'
      · rw [if_pos dollar, dollar, List.cons_append, List.singleton_append, expands.dollar, ih]
      · rw [if_neg dollar, List.singleton_append, expands.literal c _ dollar, ih]

theorem reference?_braces {digits : List Char} (notEmpty : digits ≠ [])
    (all : ∀ d ∈ digits, d.isDigit = true) (cs : List Char) :
    reference? ('\x7b' :: (digits ++ '\x7d' :: cs)) =
      some (Nat.ofDigitChars 10 digits 0, cs) := by
  have ends : ∀ d ∈ ('\x7d' :: cs).head?, d.isDigit = false := by
    rintro _ ⟨⟩
    decide
  obtain ⟨taken, left⟩ := takeWhile_append_eq all ends
  obtain ⟨d, ds, rfl⟩ := List.exists_cons_of_ne_nil notEmpty
  simp only [reference?, taken, left, Text.ofDigitValues_eq]

/-- Templates are expanded by their rules. -/
theorem expands_expand (group? : Nat → Option (List Char)) :
    Expands group? (expand fun i => (group? i).getD []) where
  nothing := expand.eq_1 _
  dollar cs := expand.eq_2 _ cs
  group digits cs notEmpty all := by
    have read := reference?_braces notEmpty all cs
    rw [expand.eq_3 _ _ (by simp)]
    split
    · next found =>
        cases read.symm.trans found
        rfl
    · next found => cases read.symm.trans found
  literal c cs other :=
    expand.eq_4 _ c cs (fun _ dollar _ => other dollar) other

/-! ## Replacing matches -/

/-- Put other texts in place of matches in the text from a place on.  Each of them is told from
the match and from the text where it begins. -/
def substitute (other : Match → List Char → List Char) (place : Nat) (rest : List Char) :
    List Match → List Char
  | [] => rest
  | m :: ms =>
      let found := rest.drop (m.first - place)
      rest.take (m.first - place) ++
        (other m found ++ substitute other m.stop (found.drop (m.stop - m.first)) ms)

theorem replaceFrom_eq {template : List Char} {other : Match → List Char → List Char}
    (same : ∀ m found,
      expand (fun i => (m.groupFrom? m.first found i).getD []) template = other m found)
    (place : Nat) (rest : List Char) (ms : List Match) :
    replaceFrom template place rest ms = substitute other place rest ms := by
  induction ms generalizing place rest with
  | nil => rfl
  | cons m ms ih => rw [replaceFrom, substitute, same, ih]

/-- A replacement is read in one way as a row of parts, and expanding its template, by whatever
follows the rules of templates, gives the row of their texts: references become the texts of
groups, and no other character has a meaning.  So these texts come in place of the matches of a
pattern. -/
theorem expand_ofReferences (replacement : String) :
    ∃ parts, (∀ others, Reads replacement.toList others ↔ others = parts) ∧
      (∀ group?, expand (fun i => (group? i).getD []) (ofReferences replacement.toList) =
        parts.flatMap (Part.text group?)) ∧
      (∀ group? expander, Expands group? expander →
        expander (ofReferences replacement.toList) = parts.flatMap (Part.text group?)) ∧
      ∀ (p : Pattern) (text : String), (p.replaceAll text replacement).toList =
        substitute (fun m found => parts.flatMap (Part.text (m.groupFrom? m.first found))) 0
          text.toList (p.matchesOf text) := by
  obtain ⟨parts, reads⟩ := exists_reads replacement.toList
  have same : ∀ group? expander, Expands group? expander →
      expander (ofReferences replacement.toList) = parts.flatMap (Part.text group?) := by
    intro group? expander expands
    rw [reads.ofReferences, expands.parts reads]
  refine ⟨parts, fun others => ⟨reads.unique, ?_⟩, ?_, same, ?_⟩
  · rintro rfl
    exact reads
  · intro group?
    exact same group? _ (expands_expand group?)
  · intro p text
    rw [replaceAll, String.toList_ofList]
    exact replaceFrom_eq (fun m found => same _ _ (expands_expand _)) 0 _ _

/-- Of two dollar signs the first is a character, and a letter does not go on with the digits of
a reference. -/
theorem expand_ofReferences_adjacent :
    expand (fun i => (if i = 1 then some ['x'] else none).getD [])
      (ofReferences "$$1a$".toList) = "$xa$".toList := by
  let group? : Nat → Option (List Char) := fun i => if i = 1 then some ['x'] else none
  obtain ⟨parts, reading, -, expanded, -⟩ := expand_ofReferences "$$1a$"
  have last : Reads ['a', '$'] [.character 'a', .character '$'] :=
    .character (fun _ => by simp [NoDigit]) (.character (fun _ => by simp [NoDigit]) .nothing)
  have later : Reads ('$' :: (['1'] ++ ['a', '$']))
      [.reference '$' ['1'], .character 'a', .character '$'] :=
    .reference (.inr rfl) nofun (by simp) (by simp [NoDigit]) last
  have reads : Reads ['$', '$', '1', 'a', '$']
      [.character '$', .reference '$' ['1'], .character 'a', .character '$'] :=
    .character (fun _ => by simp [NoDigit]) later
  have texts := expanded group? _ (expands_expand group?)
  rw [← (reading _).mp reads] at texts
  exact texts

end EditGuard.Pattern.Template
