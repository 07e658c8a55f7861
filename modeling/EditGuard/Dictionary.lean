/-!
# Dictionaries

A dictionary has at most one item for each key.  Its entries are in the order of
their keys, so dictionaries with the same items are equal.
-/

namespace EditGuard

/-- Items by keys, in the order of the keys. -/
structure Dictionary (κ : Type) [Ord κ] (α : Type) where
  entries : List (κ × α)
  ordered : entries.Pairwise fun a b => compare a.1 b.1 = .lt

namespace Dictionary

variable {κ α β : Type} [Ord κ]

/-! ## Entries in order -/

/-- Put an entry in its place, instead of one with the same key. -/
def insertEntry (k : κ) (a : α) : List (κ × α) → List (κ × α)
  | [] => [(k, a)]
  | e :: es =>
      match compare k e.1 with
      | .lt => (k, a) :: e :: es
      | .eq => (k, a) :: es
      | .gt => e :: insertEntry k a es

theorem mem_insertEntry {k : κ} {a : α} {x : κ × α} {es : List (κ × α)}
    (h : x ∈ insertEntry k a es) : x = (k, a) ∨ x ∈ es := by
  induction es with
  | nil => simpa [insertEntry] using h
  | cons e es ih =>
    unfold insertEntry at h
    split at h
    · simpa using h
    · simp only [List.mem_cons] at h ⊢
      rcases h with h | h
      · exact .inl h
      · exact .inr (.inr h)
    · simp only [List.mem_cons] at h ⊢
      rcases h with h | h
      · exact .inr (.inl h)
      · rcases ih h with h | h
        · exact .inl h
        · exact .inr (.inr h)

theorem ordered_insertEntry [Std.TransOrd κ] [Std.LawfulEqOrd κ] (k : κ) (a : α)
    {es : List (κ × α)} (h : es.Pairwise fun a b => compare a.1 b.1 = .lt) :
    (insertEntry k a es).Pairwise fun a b => compare a.1 b.1 = .lt := by
  induction es with
  | nil => simp [insertEntry]
  | cons e es ih =>
    obtain ⟨he, hes⟩ := List.pairwise_cons.1 h
    unfold insertEntry
    split
    · rename_i hlt
      refine List.pairwise_cons.2 ⟨fun x hx => ?_, h⟩
      rcases List.mem_cons.1 hx with rfl | hx
      · exact hlt
      · exact Std.TransCmp.lt_trans hlt (he x hx)
    · rename_i heq
      have hk := Std.LawfulEqCmp.eq_of_compare heq
      subst hk
      exact List.pairwise_cons.2 ⟨he, hes⟩
    · rename_i hgt
      refine List.pairwise_cons.2 ⟨fun x hx => ?_, ih hes⟩
      rcases mem_insertEntry hx with rfl | hx
      · exact Std.OrientedCmp.gt_iff_lt.1 hgt
      · exact he x hx

/-! ## Operations -/

def empty : Dictionary κ α :=
  ⟨[], .nil⟩

instance : Inhabited (Dictionary κ α) :=
  ⟨empty⟩

/-- Set the item of a key. -/
def insert [Std.TransOrd κ] [Std.LawfulEqOrd κ] (d : Dictionary κ α) (k : κ) (a : α) :
    Dictionary κ α :=
  ⟨insertEntry k a d.entries, ordered_insertEntry k a d.ordered⟩

/-- The item of a key. -/
def find? (d : Dictionary κ α) (k : κ) : Option α :=
  (d.entries.find? fun e => compare k e.1 == .eq).map Prod.snd

def contains (d : Dictionary κ α) (k : κ) : Bool :=
  (d.find? k).isSome

/-- Set the item of a key that has none. -/
def insertNew [Std.TransOrd κ] [Std.LawfulEqOrd κ] (d : Dictionary κ α) (k : κ) (a : α) :
    Dictionary κ α :=
  if d.contains k then d else d.insert k a

/-- Keep some of the entries. -/
def filter (p : κ × α → Bool) (d : Dictionary κ α) : Dictionary κ α :=
  ⟨d.entries.filter p, d.ordered.filter p⟩

/-- Take away a key and its item. -/
def erase (d : Dictionary κ α) (k : κ) : Dictionary κ α :=
  d.filter fun e => compare k e.1 != .eq

/-- Set all items of another dictionary. -/
def merge [Std.TransOrd κ] [Std.LawfulEqOrd κ] (d other : Dictionary κ α) : Dictionary κ α :=
  other.entries.foldl (fun d e => d.insert e.1 e.2) d

/-- The dictionary of a list of entries, of which later ones win. -/
def ofList [Std.TransOrd κ] [Std.LawfulEqOrd κ] (es : List (κ × α)) : Dictionary κ α :=
  es.foldl (fun d e => d.insert e.1 e.2) empty

/-- The keys in order. -/
def keys (d : Dictionary κ α) : List κ :=
  d.entries.map Prod.fst

/-- The items in the order of their keys. -/
def items (d : Dictionary κ α) : List α :=
  d.entries.map Prod.snd

def size (d : Dictionary κ α) : Nat :=
  d.entries.length

def isEmpty (d : Dictionary κ α) : Bool :=
  d.entries.isEmpty

/-! ## Looking up after a change -/

theorem find?_empty (k : κ) : (empty : Dictionary κ α).find? k = none :=
  rfl

theorem find?_insertEntry [Std.TransOrd κ] [Std.LawfulEqOrd κ] (k l : κ) (a : α)
    (es : List (κ × α)) :
    ((insertEntry k a es).find? fun e => compare l e.1 == .eq).map Prod.snd =
      if compare l k = .eq then some a
      else (es.find? fun e => compare l e.1 == .eq).map Prod.snd := by
  induction es with
  | nil => by_cases h : compare l k = .eq <;> simp [insertEntry, h]
  | cons e es ih =>
    unfold insertEntry
    split
    · by_cases h : compare l k = .eq <;> simp [h]
    · rename_i heq
      have hk := Std.LawfulEqCmp.eq_of_compare heq
      by_cases h : compare l k = .eq
      · simp [h]
      · have h' : ¬ compare l e.1 = .eq := hk ▸ h
        simp [h, h']
    · rename_i hgt
      by_cases he : compare l e.1 = .eq
      · have hl := Std.LawfulEqCmp.eq_of_compare he
        have h : ¬ compare l k = .eq := by
          intro h
          have hk := Std.LawfulEqCmp.eq_of_compare h
          rw [← hk, he] at hgt
          contradiction
        simp [he, h]
      · simpa [List.find?_cons, he] using ih

/-- After setting the item of a key, that key has it and the others are as before. -/
theorem find?_insert [DecidableEq κ] [Std.TransOrd κ] [Std.LawfulEqOrd κ]
    (d : Dictionary κ α) (k l : κ) (a : α) :
    (d.insert k a).find? l = if l = k then some a else d.find? l := by
  have h := find?_insertEntry k l a d.entries
  simp only [Std.LawfulEqCmp.compare_eq_iff_eq] at h
  exact h

end Dictionary

end EditGuard
