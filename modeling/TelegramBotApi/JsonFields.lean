import TelegramBotApi.RichTexts

set_option autoImplicit false

namespace TelegramBotApi.JsonObject

open RichTexts

@[simp] theorem get_field_nil (name : String) : getField [] name = none := rfl

@[simp] theorem get_field_cons (field name : String) (value : JsonValue) (fields : JsonObject) :
    getField ((field, value) :: fields) name = if field = name then some value else getField fields name := by
  by_cases same : field = name <;> simp [getField, same]

@[simp] theorem get_field_append (first last : JsonObject) (name : String) :
    getField (first ++ last) name = (getField first name).or (getField last name) := by
  induction first with
  | nil => rfl
  | cons field fields ih =>
      rw [List.cons_append, get_field_cons, get_field_cons, ih]
      split_ifs <;> simp

@[simp] theorem get_field_optional_string (field name value : String) :
    getField (optionalString field value) name = if field = name ∧ value ≠ "" then some (.string value) else none := by
  unfold optionalString
  by_cases empty : value = "" <;> simp [empty]

@[simp] theorem get_field_optional_true (field name : String) (value : Bool) :
    getField (optionalTrue field value) name = if field = name ∧ value = true then some (.boolean true) else none := by
  cases value <;> simp [optionalTrue]

variable (object : JsonObject) (name : String)

theorem read_required_string (value : String) (found : getField object name = some (.string value)) :
    getRequiredStringField object name = .ok value := by
  simp [getRequiredStringField, found]

-- An empty string is read where nothing was printed.
theorem read_optional_string (value : String)
    (found : getField object name = if value ≠ "" then some (.string value) else none) :
    getOptionalStringField object name = .ok value := by
  by_cases empty : value = "" <;> simp [getOptionalStringField, found, empty]

theorem read_optional_true (value : Bool)
    (found : getField object name = if value = true then some (.boolean true) else none) :
    getOptionalBoolField object name = .ok value := by
  cases value <;> simp [getOptionalBoolField, found]

end TelegramBotApi.JsonObject
