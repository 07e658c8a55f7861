import EditGuard.Text.Digit

/-!
# Replacement templates

In a template `${7}` stands for the text of group seven and `$$` for a dollar sign;
all else is literal.  Rules write references as a backslash or a dollar sign
with digits, and those are turned into templates first.
-/

namespace EditGuard.Pattern.Template

/-- Turn the references of a rule into those of a template.  A dollar sign that
begins no reference is literal. -/
def ofReferences : List Char → List Char
  | [] => []
  | c :: cs =>
      let digits := cs.takeWhile Char.isDigit
      if (c == '\\' || c == '$') && !digits.isEmpty then
        ['$', '\x7b'] ++ digits ++ '\x7d' :: ofReferences (cs.dropWhile Char.isDigit)
      else if c == '$' then '$' :: '$' :: ofReferences cs
      else c :: ofReferences cs
termination_by cs => cs.length
decreasing_by
  all_goals simp only [List.length_cons]
  · have := (List.dropWhile_sublist (l := cs) Char.isDigit).length_le
    omega
  all_goals omega

/-- The number of a reference to a group, after a dollar sign, and what follows
it. -/
def reference? : List Char → Option (Nat × List Char)
  | '\x7b' :: cs =>
      let digits := cs.takeWhile Char.isDigit
      match digits, cs.dropWhile Char.isDigit with
      | _ :: _, '\x7d' :: rest =>
          some (Text.ofDigitValues 10 (digits.map fun d => d.toNat - '0'.toNat), rest)
      | _, _ => none
  | _ => none

theorem length_lt_of_reference? {cs rest : List Char} {n : Nat}
    (h : reference? cs = some (n, rest)) : rest.length < cs.length := by
  unfold reference? at h
  split at h
  · rename_i cs
    dsimp only at h
    split at h
    · rename_i heq
      have := (List.dropWhile_sublist (l := cs) Char.isDigit).length_le
      rw [heq] at this
      simp only [Option.some.injEq, Prod.mk.injEq] at h
      obtain ⟨-, rfl⟩ := h
      simp only [List.length_cons] at this ⊢
      omega
    · contradiction
  · contradiction

/-- Put the texts of groups into a template. -/
def expand (group : Nat → List Char) : List Char → List Char
  | [] => []
  | '$' :: '$' :: cs => '$' :: expand group cs
  | '$' :: cs =>
      match _read : reference? cs with
      | some (n, rest) => group n ++ expand group rest
      | none => '$' :: expand group cs
  | c :: cs => c :: expand group cs
termination_by cs => cs.length
decreasing_by
  all_goals simp only [List.length_cons]
  any_goals omega
  have := length_lt_of_reference? _read
  omega

end EditGuard.Pattern.Template
