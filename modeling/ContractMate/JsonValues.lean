import ContractMate.JsonNumbers

/-!
# The numbers of JSON values

A value whose numbers are all of one kind is converted number by number, and a value in
which no key stands twice is sound if its numbers are written as words.
-/

namespace JsonText

variable {N M : Type}

/-- No key stands twice in one object. -/
def Value.Keyed : Value N → Prop
  | .list items => itemsKeyed items
  | .object fields => (fields.map Prod.fst).Nodup ∧ fieldsKeyed fields
  | _ => True
where
  itemsKeyed : List (Value N) → Prop
    | [] => True
    | item :: items => item.Keyed ∧ itemsKeyed items
  fieldsKeyed : List (String × Value N) → Prop
    | [] => True
    | (_, value) :: fields => value.Keyed ∧ fieldsKeyed fields

/-- Whether all numbers are of some kind. -/
def Value.allNumbers (kind : N → Bool) : Value N → Bool
  | .number value => kind value
  | .list items => allItems items
  | .object fields => allFields fields
  | _ => true
where
  allItems : List (Value N) → Bool
    | [] => true
    | item :: items => item.allNumbers kind && allItems items
  allFields : List (String × Value N) → Bool
    | [] => true
    | (_, value) :: fields => value.allNumbers kind && allFields fields

/-- The same value with other numbers. -/
def Value.map (number : N → M) : Value N → Value M
  | .null => .null
  | .bool value => .bool value
  | .number value => .number (number value)
  | .text value => .text value
  | .list items => .list (mapItems items)
  | .object fields => .object (mapFields fields)
where
  mapItems : List (Value N) → List (Value M)
    | [] => []
    | item :: items => item.map number :: mapItems items
  mapFields : List (String × Value N) → List (String × Value M)
    | [] => []
    | (key, value) :: fields => (key, value.map number) :: mapFields fields

section Sound

variable {showNumber : N → List Char} (tokens : ∀ value, IsToken (showNumber value))
include tokens

theorem Value.Keyed.sound : ∀ {value : Value N}, value.Keyed → value.Sound showNumber
  | .null, _ => trivial
  | .bool _, _ => trivial
  | .number value, _ => tokens value
  | .text _, _ => trivial
  | .list _, keyed => items keyed
  | .object _, keyed => ⟨keyed.1, fields keyed.2⟩
where
  items : ∀ {items : List (Value N)}, Value.Keyed.itemsKeyed items →
      Value.Sound.itemsSound showNumber items
    | [], _ => trivial
    | _ :: _, keyed => ⟨keyed.1.sound, items keyed.2⟩
  fields : ∀ {fields : List (String × Value N)}, Value.Keyed.fieldsKeyed fields →
      Value.Sound.fieldsSound showNumber fields
    | [], _ => trivial
    | (_, _) :: _, keyed => ⟨keyed.1.sound, fields keyed.2⟩

end Sound

section Convert

variable {counterpart : N → Option M} {kind : N → Bool} {number : N → M}
  (known : ∀ value, counterpart value = if kind value then some (number value) else none)
include known

/-- A value has its counterpart if all its numbers have theirs. -/
theorem convert_eq : ∀ value : Value N, value.convert counterpart =
    if value.allNumbers kind then some (value.map number) else none
  | .null => rfl
  | .bool _ => rfl
  | .number value => by
      rw [Value.convert, known, Value.allNumbers, Value.map]
      cases kind value <;> rfl
  | .text _ => rfl
  | .list items => by
      rw [Value.convert, convertItems items, Value.allNumbers, Value.map]
      cases Value.allNumbers.allItems kind items <;> rfl
  | .object fields => by
      rw [Value.convert, convertFields fields, Value.allNumbers, Value.map]
      cases Value.allNumbers.allFields kind fields <;> rfl
where
  convertItems : ∀ items : List (Value N), Value.convert.convertItems counterpart items =
      if Value.allNumbers.allItems kind items then some (Value.map.mapItems number items)
      else none
    | [] => rfl
    | item :: items => by
        rw [Value.convert.convertItems, convert_eq item, convertItems items,
          Value.allNumbers.allItems, Value.map.mapItems]
        cases item.allNumbers kind <;> cases Value.allNumbers.allItems kind items <;> rfl
  convertFields : ∀ fields : List (String × Value N),
      Value.convert.convertFields counterpart fields =
        if Value.allNumbers.allFields kind fields then
          some (Value.map.mapFields number fields)
        else none
    | [] => rfl
    | (key, value) :: fields => by
        rw [Value.convert.convertFields, convert_eq value, convertFields fields,
          Value.allNumbers.allFields, Value.map.mapFields]
        cases value.allNumbers kind <;>
          cases Value.allNumbers.allFields kind fields <;> rfl

end Convert

end JsonText
