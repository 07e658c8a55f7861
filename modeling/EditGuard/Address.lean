import EditGuard.Decimal.Reading
import EditGuard.Text.Digit

/-!
# Network addresses

Addresses of 32 and of 128 bits and their texts.  A text of a long address
writes eight groups of hexadecimal digits; one row of zero groups may be left
out, and the last two groups may be written as a short address.
-/

namespace EditGuard

/-- A network address of one of the two families. -/
inductive Address where
  | v4 (bits : BitVec 32)
  | v6 (bits : BitVec 128)
deriving Repr, DecidableEq, Inhabited

namespace Address

/-! ## Reading -/

/-- How strictly the text of an address is read.  A strict text has no leading
zeros in decimal numbers and leaves out at least one group where it leaves out
groups at all. -/
inductive Spelling where
  | strict
  | lenient
deriving Repr, DecidableEq, Inhabited

/-- A decimal number below 256 of at most three digits. -/
def octet? (spelling : Spelling) (cs : List Char) : Option (Nat × List Char) :=
  let digits := cs.takeWhile Char.isDigit
  let value := Decimal.naturalOf digits
  let leadingZero := 1 < digits.length && digits.head? == some '0'
  if digits.isEmpty || 3 < digits.length || 255 < value then none
  else if leadingZero && spelling == .strict then none
  else some (value, cs.drop digits.length)

/-- What follows a character at the head of a text. -/
def after? (mark : Char) : List Char → Option (List Char)
  | [] => none
  | c :: cs => if c = mark then some cs else none

/-- The bits of a short address at the head of a text. -/
def short? (spelling : Spelling) (cs : List Char) : Option (BitVec 32 × List Char) := do
  let (a, cs) ← octet? spelling cs
  let (b, cs) ← octet? spelling (← after? '.' cs)
  let (c, cs) ← octet? spelling (← after? '.' cs)
  let (d, cs) ← octet? spelling (← after? '.' cs)
  return (BitVec.ofNat 32 (((a * 256 + b) * 256 + c) * 256 + d), cs)

/-- A group of one to four hexadecimal digits. -/
def group? (cs : List Char) : Option (Nat × List Char) :=
  let digits := cs.takeWhile Text.isHexDigit
  if digits.isEmpty || 4 < digits.length then none
  else
    some (Text.ofDigitValues 16 (digits.filterMap Text.hexValue?), cs.drop digits.length)

/-- Groups of a long address. -/
structure Groups where
  groups : List Nat
  /-- Whether the last two were written as a short address. -/
  endsShort : Bool
  rest : List Char
deriving Repr, DecidableEq, Inhabited

/-- At most `count` groups with colons between them, and a colon before the
first one unless it is the `first` one of its row. -/
def groups (spelling : Spelling) (first : Bool) : Nat → List Char → Groups
  | 0, cs => ⟨[], false, cs⟩
  | count + 1, cs =>
      match if first then some cs else after? ':' cs with
      | none => ⟨[], false, cs⟩
      | some start =>
          match if 0 < count then short? spelling start else none with
          | some (bits, rest) =>
              ⟨[bits.toNat / 0x10000, bits.toNat % 0x10000], true, rest⟩
          | none =>
              match group? start with
              | none => ⟨[], false, cs⟩
              | some (group, rest) =>
                  let more := groups spelling false count rest
                  ⟨group :: more.groups, more.endsShort, more.rest⟩

/-- The bits of eight groups. -/
def ofGroups (gs : List Nat) : BitVec 128 :=
  BitVec.ofNat 128 (Text.ofDigitValues 0x10000 gs)

/-- The bits of a long address at the head of a text. -/
def long? (spelling : Spelling) (cs : List Char) : Option (BitVec 128 × List Char) :=
  let head := groups spelling true 8 cs
  let size := head.groups.length
  if size = 8 then some (ofGroups head.groups, head.rest)
  else if head.endsShort then none
  else
    match head.rest with
    | ':' :: ':' :: afterGap =>
        let limit := match spelling with
          | .strict => 7 - size
          | .lenient => 8 - size
        let tail := groups spelling true limit afterGap
        let gap := List.replicate (8 - size - tail.groups.length) 0
        some (ofGroups (head.groups ++ gap ++ tail.groups), tail.rest)
    | _ => none

/-- An address at the head of a text. -/
def scan? (spelling : Spelling) (cs : List Char) : Option (Address × List Char) :=
  match short? spelling cs with
  | some (bits, rest) => some (v4 bits, rest)
  | none => (long? spelling cs).map fun r => (v6 r.1, r.2)

/-- The address that a whole text writes. -/
def parse? (text : String) : Option Address :=
  match scan? .strict text.toList with
  | some (a, []) => some a
  | _ => none

/-! ## Writing -/

/-- The text of a short address. -/
def shortText (bits : BitVec 32) : String :=
  let n := bits.toNat
  ".".intercalate
    [toString (n >>> 24), toString (n >>> 16 % 256), toString (n >>> 8 % 256),
      toString (n % 256)]

/-- The eight groups of a long address. -/
def toGroups (bits : BitVec 128) : List Nat :=
  (List.range 8).map fun i => bits.toNat >>> (16 * (7 - i)) % 0x10000

/-- The texts of groups with colons between them. -/
def groupsText (gs : List Nat) : String :=
  ":".intercalate (gs.map fun g => String.ofList (Nat.toDigits 16 g))

/-- Where the longest row of zero groups begins, the first one of several, and
how long it is; the groups begin at `start`. -/
def longestZeros (start : Nat) : List Nat → Nat × Nat
  | [] => (start, 0)
  | g :: gs =>
      let later := longestZeros (start + 1) gs
      let zeros := ((g :: gs).takeWhile (· == 0)).length
      if later.2 ≤ zeros then (start, zeros) else later

/-- The text of a long address.  The longest row of at least two zero groups is
left out, and an address that stands for a short one ends in its text. -/
def longText (bits : BitVec 128) : String :=
  let gs := toGroups bits
  if gs.take 6 = [0, 0, 0, 0, 0, 0xFFFF] then
    "::ffff:" ++ shortText (bits.truncate 32)
  else
    let (start, zeros) := longestZeros 0 gs
    if 1 < zeros then
      groupsText (gs.take start) ++ "::" ++ groupsText (gs.drop (start + zeros))
    else groupsText gs

/-- The canonical text of an address. -/
def toText : Address → String
  | v4 bits => shortText bits
  | v6 bits => longText bits

end Address

end EditGuard
