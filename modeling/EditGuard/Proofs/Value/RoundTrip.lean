import EditGuard.Proofs.Json.RoundTrip
import EditGuard.Value

/-!
# Values as documents and back

A value that holds no floating point number comes back from its document, except that what
was undefined is null.
-/

namespace EditGuard.Value

/-- A value without floating point numbers whose lists nest at most `depth` levels. -/
inductive Plain : Nat → Value → Prop
  | undefined {depth : Nat} : Plain depth .undefined
  | null {depth : Nat} : Plain depth .null
  | bool {depth : Nat} (b : Bool) : Plain depth (.bool b)
  | int {depth : Nat} (n : Int64) : Plain depth (.int n)
  | text {depth : Nat} (s : String) : Plain depth (.text s)
  | list {depth : Nat} {items : List Value} (each : ∀ item ∈ items, Plain depth item) :
      Plain (depth + 1) (.list items)

mutual

/-- Whether a value is plain. -/
def isPlain : Nat → Value → Bool
  | _, float _ => false
  | 0, list _ => false
  | depth + 1, list items => allPlain depth items
  | _, _ => true

/-- Whether all items are plain. -/
def allPlain (depth : Nat) : List Value → Bool
  | [] => true
  | item :: items => isPlain depth item && allPlain depth items

end

theorem allPlain_eq (depth : Nat) (items : List Value) :
    allPlain depth items = items.all (isPlain depth) := by
  induction items with
  | nil => rfl
  | cons item items ih => rw [allPlain, ih, List.all_cons]

theorem isPlain_iff {depth : Nat} {v : Value} : isPlain depth v = true ↔ Plain depth v := by
  constructor
  · intro plain
    induction depth generalizing v with
    | zero =>
        cases v with
        | float x => simp [isPlain] at plain
        | list items => simp [isPlain] at plain
        | _ => constructor
    | succ depth ih =>
        cases v with
        | float x => simp [isPlain] at plain
        | list items =>
            rw [isPlain, allPlain_eq, List.all_eq_true] at plain
            exact .list fun item mem => ih (plain item mem)
        | _ => constructor
  · intro plain
    induction plain with
    | list each ih =>
        rw [isPlain, allPlain_eq, List.all_eq_true]
        exact ih
    | _ => rfl

instance (depth : Nat) (v : Value) : Decidable (Plain depth v) :=
  decidable_of_iff _ isPlain_iff

mutual

/-- A value with null for all that is undefined in it. -/
def withoutUndefined : Value → Value
  | undefined => null
  | list items => list (itemsWithoutUndefined items)
  | v => v

/-- Items with null for all that is undefined in them. -/
def itemsWithoutUndefined : List Value → List Value
  | [] => []
  | item :: items => item.withoutUndefined :: itemsWithoutUndefined items

end

theorem itemsToJson_eq (items : List Value) : itemsToJson items = items.map toJson := by
  induction items with
  | nil => rfl
  | cons item items ih => rw [itemsToJson, ih, List.map_cons]

theorem itemsOfJson_eq (items : List Json) : itemsOfJson items = items.map ofJson := by
  induction items with
  | nil => rfl
  | cons item items ih => rw [itemsOfJson, ih, List.map_cons]

theorem itemsWithoutUndefined_eq (items : List Value) :
    itemsWithoutUndefined items = items.map withoutUndefined := by
  induction items with
  | nil => rfl
  | cons item items ih => rw [itemsWithoutUndefined, ih, List.map_cons]

/-- The document of a plain value is plain. -/
theorem Plain.toJson {depth : Nat} {v : Value} (plain : Plain depth v) :
    Json.Plain depth v.toJson := by
  induction plain with
  | undefined => exact .null
  | null => exact .null
  | bool b => exact .bool b
  | int n =>
      have lower := n.le_toInt
      have upper := n.toInt_lt
      exact .integer (by omega) (by omega)
  | text s => exact .string s
  | list each ih =>
      rw [Value.toJson, itemsToJson_eq]
      refine .array fun item mem => ?_
      obtain ⟨v, inside, rfl⟩ := List.mem_map.mp mem
      exact ih v inside

theorem exactOr_toInt (n : Int64) (approximation : Float) :
    Number.exactOr n.toInt approximation = .int n := by
  have fits : Number.Fits n.toInt := ⟨n.le_toInt, n.toInt_lt⟩
  rw [Number.exactOr, if_pos fits, Int64.ofInt_toInt]

/-- A plain value comes back from its document, with null for what was undefined. -/
theorem Plain.ofJson_toJson {depth : Nat} {v : Value} (plain : Plain depth v) :
    ofJson v.toJson = v.withoutUndefined := by
  induction plain with
  | undefined => rfl
  | null => rfl
  | bool b => rfl
  | int n =>
      rw [Value.toJson, ofJson, exactOr_toInt]
      rfl
  | text s => rfl
  | list each ih =>
      rw [Value.toJson, ofJson, withoutUndefined, itemsToJson_eq, itemsOfJson_eq,
        itemsWithoutUndefined_eq, List.map_map]
      exact congrArg Value.list (List.map_congr_left ih)

end EditGuard.Value
