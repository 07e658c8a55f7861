import EditGuard.Text.Case

/-!
# Characters that look alike

Digits, signs and letters of other scripts that stand in for a Latin letter are
folded to that letter in upper case, so that texts which look alike become equal.
-/

namespace EditGuard.Text

/-- Latin capitals, each with the characters that look like it. -/
def lookalikes : List (Char × String) :=
  [('A', "4@АаΑαàáâäåÀÁÂÄÅ"),
    ('B', "8ВвΒβ"),
    ('C', "СсçÇ"),
    ('E', "3€ЕеΕεèéêëÈÉ"),
    ('H', "НнΗ"),
    ('J', "Јј"),
    ('K', "КкΚκ"),
    ('L', "1|!IilІіΙιìíîï"),
    ('M', "МмΜ"),
    ('N', "ΝñÑ"),
    ('O', "0ОоΟοòóôöøÒÓÔÖØ"),
    ('P', "РрΡρ"),
    ('S', "5$Ѕѕ"),
    ('T', "7ТтΤτ"),
    ('U', "ùúûüÙÚÛÜ"),
    ('X', "ХхΧχ"),
    ('Y', "УуΥυýÿÝ"),
    ('Z', "Ζ")]

/-- The capital that a character looks like. -/
def capital? (c : Char) : Option Char :=
  (lookalikes.find? fun row => row.2.toList.contains c).map Prod.fst

/-- The ASCII character of a full-width form. -/
def halfWidth? (c : Char) : Option Char :=
  if 0xFF01 ≤ c.toNat ∧ c.toNat ≤ 0xFF5E then some (Char.ofNat (c.toNat - 0xFEE0)) else none

/-- The capital that a character or its upper case looks like, or else its upper
case if that is one character. -/
def foldCased (c : Char) : Char :=
  match capital? c with
  | some folded => folded
  | none =>
      match upper c with
      | [u] => (capital? u).getD u
      | _ => c

/-- Fold a character to what it looks like. -/
def foldLookalike (c : Char) : Char :=
  foldCased ((halfWidth? c).getD c)

/-- Fold all characters of a text. -/
def foldLookalikes (s : String) : String :=
  s.map foldLookalike

end EditGuard.Text
