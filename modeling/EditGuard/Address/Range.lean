import EditGuard.Address
import EditGuard.Text.Blank

/-!
# Ranges of addresses

A network is the set of the addresses that agree on their first bits.  A range
is a network, or all addresses from one to another.
-/

namespace EditGuard.Address

/-- Bits in an address of the family. -/
def width : Address → Nat
  | v4 _ => 32
  | v6 _ => 128

/-- An address as a number. -/
def toNat : Address → Nat
  | v4 bits => bits.toNat
  | v6 bits => bits.toNat

/-- Whether two addresses are of one family. -/
def sameFamily : Address → Address → Bool
  | v4 _, v4 _ => true
  | v6 _, v6 _ => true
  | _, _ => false

/-- Whether two addresses of one family agree on their first bits. -/
def agree (a b : Address) (length : Nat) : Bool :=
  sameFamily a b &&
    a.toNat >>> (a.width - length) == b.toNat >>> (a.width - length)

/-- The address with all bits after the first ones cleared. -/
def clearAfter (a : Address) (length : Nat) : Address :=
  match a with
  | v4 bits => v4 (bits >>> (32 - length) <<< (32 - length))
  | v6 bits => v6 (bits >>> (128 - length) <<< (128 - length))

/-- The text of the network around an address, with the number of leading bits
for its family.  No number is larger than the address. -/
def networkText (a : Address) (v4Length v6Length : Nat) : String :=
  let length :=
    match a with
    | v4 _ => min v4Length 32
    | v6 _ => min v6Length 128
  s!"{(a.clearAfter length).toText}/{length}"

/-- A set of addresses as rules write it. -/
inductive Range where
  /-- The addresses that agree with one on its first bits. -/
  | network (base : Address) (length : Nat)
  /-- The addresses of a family from one to another. -/
  | span (first last : Address)
deriving Repr, DecidableEq, Inhabited

namespace Range

/-- The number of leading bits, of at most three digits. -/
def length? (limit : Nat) (cs : List Char) : Option Nat :=
  let value := Decimal.naturalOf cs
  if cs.isEmpty || 3 < cs.length || !cs.all Char.isDigit || limit < value then none
  else some value

/-- A network written as an address and a number of leading bits after a slash.
Later bits of the address do not count. -/
def network? (cs : List Char) : Option Range :=
  match scan? .lenient cs with
  | some (a, '/' :: rest) => (length? a.width rest).map fun n => network (a.clearAfter n) n
  | _ => none

/-- An address with blanks around it. -/
def address? (cs : List Char) : Option Address :=
  match scan? .strict (Text.trim cs) with
  | some (a, []) => some a
  | _ => none

/-- Read a range: two addresses with a hyphen between them, a network, or a
single address. -/
def parse? (text : String) : Option Range :=
  let cs := Text.trim text.toList
  let (first, rest) := cs.span (· != '-')
  match rest with
  | _ :: last =>
      match address? first, address? last with
      | some a, some b => if sameFamily a b then some (span a b) else none
      | _, _ => none
  | [] =>
      if cs.contains '/' then network? cs
      else (address? cs).map fun a => span a a

/-- Whether an address is in a range. -/
def contains : Range → Address → Bool
  | network base length, a => agree base a length
  | span first last, a =>
      sameFamily first a && first.toNat ≤ a.toNat && a.toNat ≤ last.toNat

end Range

end EditGuard.Address
