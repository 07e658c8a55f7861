import EditGuard.Proofs.Json.Injectivity
import EditGuard.Proofs.Value.RoundTrip

/-!
# What the document of a value tells

The document of a value tells the value, except that null stands for what is undefined and for
the floating point numbers that are not finite.
-/

namespace EditGuard.Value

mutual

/-- A value with null for all in it that a document has no word for. -/
def settled : Value → Value
  | undefined => null
  | float x => if x.isFinite then float x else null
  | list items => list (itemsSettled items)
  | v => v

/-- Items with null for all in them that a document has no word for. -/
def itemsSettled : List Value → List Value
  | [] => []
  | item :: items => item.settled :: itemsSettled items

end

mutual

/-- The value of a document that was made of a value. -/
theorem ofJson_toJson : (v : Value) → ofJson v.toJson = v.settled
  | undefined => rfl
  | null => rfl
  | bool _ => rfl
  | int n => by
      rw [toJson, ofJson, exactOr_toInt]
      rfl
  | float x => by
      rw [toJson, settled]
      split
      · rfl
      · rfl
  | text _ => rfl
  | list items => by rw [toJson, ofJson, settled, itemsOfJson_itemsToJson items]

theorem itemsOfJson_itemsToJson : (items : List Value) →
    itemsOfJson (itemsToJson items) = itemsSettled items
  | [] => rfl
  | item :: items => by
      rw [itemsToJson, itemsOfJson, itemsSettled, ofJson_toJson item,
        itemsOfJson_itemsToJson items]

end

mutual

/-- A value has the document of the value that it settles to. -/
theorem toJson_settled : (v : Value) → v.settled.toJson = v.toJson
  | undefined => rfl
  | null => rfl
  | bool _ => rfl
  | int _ => rfl
  | float x => by
      rw [settled, toJson]
      split
      · next isFinite => rw [toJson, if_pos isFinite]
      · rfl
  | text _ => rfl
  | list items => by rw [settled, toJson, toJson, itemsToJson_itemsSettled items]

theorem itemsToJson_itemsSettled : (items : List Value) →
    itemsToJson (itemsSettled items) = itemsToJson items
  | [] => rfl
  | item :: items => by
      rw [itemsSettled, itemsToJson, itemsToJson, toJson_settled item,
        itemsToJson_itemsSettled items]

end

/-- Values have the same document exactly if they settle to the same. -/
theorem toJson_eq_iff {v w : Value} : v.toJson = w.toJson ↔ v.settled = w.settled := by
  constructor
  · intro same
    rw [← ofJson_toJson v, same, ofJson_toJson w]
  · intro same
    rw [← toJson_settled v, same, toJson_settled w]

mutual

/-- The numbers in the document of a value are finite. -/
theorem proper_toJson : (v : Value) → v.toJson.Proper
  | undefined => .null
  | null => .null
  | bool b => .bool b
  | int n => .integer n.toInt
  | float x => by
      rw [toJson]
      split
      · next isFinite => exact .float isFinite
      · exact .null
  | text s => .string s
  | list items => .array (proper_itemsToJson items)

theorem proper_itemsToJson : (items : List Value) → ∀ j ∈ itemsToJson items, j.Proper
  | [] => List.forall_mem_nil _
  | item :: items => List.forall_mem_cons.mpr ⟨proper_toJson item, proper_itemsToJson items⟩

end

end EditGuard.Value
