import EditGuard.Text.Digit

/-!
# Markup

Tags and character references of HTML.
-/

namespace EditGuard.Text

/-- Leave out all tags.  A tag without an end reaches to the end of the text. -/
def withoutTags (inTag : Bool) : List Char → List Char
  | [] => []
  | c :: cs =>
      if c = '<' then withoutTags true cs
      else if inTag then withoutTags (c != '>') cs
      else c :: withoutTags false cs

/-- The number of the digits after a sign that may be missing. -/
def codeOf? (base : Nat) (digits : List Char) : Option Nat :=
  let digits :=
    match digits with
    | '+' :: rest => rest
    | _ => digits
  if digits.isEmpty then none else (digitValues? base digits).map (ofDigitValues base)

/-- The character of a reference by its number. -/
def codePoint? (n : Nat) : Option Char :=
  if n.isValidChar then some (Char.ofNat n) else none

/-- The character that a reference names or numbers. -/
def referent? (reference : List Char) : Option Char :=
  match reference with
  | '#' :: 'x' :: digits | '#' :: 'X' :: digits => (codeOf? 16 digits).bind codePoint?
  | '#' :: digits => (codeOf? 10 digits).bind codePoint?
  | _ =>
      match String.ofList reference with
      | "amp" => some '&'
      | "lt" => some '<'
      | "gt" => some '>'
      | "quot" => some '"'
      | "apos" => some '\''
      | "nbsp" => some '\u00a0'
      | _ => none

/-- The most bytes between the ampersand and the semicolon of a reference. -/
def referenceLimit : Nat := 10

/-- The character of the reference that a text after an ampersand begins with, and
the length of the reference. -/
def reference? (cs : List Char) : Option (Char × Nat) :=
  let reference := cs.takeWhile (· != ';')
  if reference.length < cs.length ∧ (String.ofList reference).utf8ByteSize ≤ referenceLimit then
    (referent? reference).map fun c => (c, reference.length + 1)
  else none

/-- Put characters in place of their references.  `skip` counts the characters that
still belong to the last reference. -/
def withoutReferences (skip : Nat) : List Char → List Char
  | [] => []
  | c :: cs =>
      match skip with
      | k + 1 => withoutReferences k cs
      | 0 =>
          match if c = '&' then reference? cs else none with
          | some (d, length) => d :: withoutReferences length cs
          | none => c :: withoutReferences 0 cs

end EditGuard.Text
