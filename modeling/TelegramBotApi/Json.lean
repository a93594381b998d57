import Mathlib

set_option autoImplicit false

namespace TelegramBotApi

structure Status where
  code : Int
  message : String
deriving DecidableEq, Repr

abbrev Result (α : Type) := Except Status α

inductive JsonType where
  | null | number | boolean | string | array | object
deriving DecidableEq, Repr

-- Numbers keep their source text, as td::JsonValue does.
inductive JsonValue where
  | null
  | number (text : String)
  | boolean (value : Bool)
  | string (value : String)
  | array (values : List JsonValue)
  | object (fields : List (String × JsonValue))

abbrev JsonObject := List (String × JsonValue)

def JsonValue.type : JsonValue → JsonType
  | .null => .null
  | .number _ => .number
  | .boolean _ => .boolean
  | .string _ => .string
  | .array _ => .array
  | .object _ => .object

def JsonType.name : JsonType → String
  | .null => "Null"
  | .number => "Number"
  | .boolean => "Boolean"
  | .string => "String"
  | .array => "Array"
  | .object => "Object"

namespace JsonObject

def getField (object : JsonObject) (name : String) : Option JsonValue :=
  (object.find? (fun field => field.1 == name)).map Prod.snd

def hasField (object : JsonObject) (name : String) : Bool := (getField object name).isSome

def wrongType (name : String) (type : JsonType) : Status :=
  ⟨400, "Field \"" ++ name ++ "\" must be of type " ++ type.name⟩

def missing (name : String) : Status := ⟨400, "Can't find field \"" ++ name ++ "\""⟩

def getOptionalStringField (object : JsonObject) (name : String) : Result String :=
  match getField object name with
  | none => .ok ""
  | some (.string value) => .ok value
  | some (.number text) => .ok text
  | some _ => .error (wrongType name .string)

def getRequiredStringField (object : JsonObject) (name : String) : Result String :=
  match getField object name with
  | none => .error (missing name)
  | some (.string value) => .ok value
  | some (.number text) => .ok text
  | some _ => .error (wrongType name .string)

def getOptionalBoolField (object : JsonObject) (name : String) : Result Bool :=
  match getField object name with
  | none => .ok false
  | some (.boolean value) => .ok value
  | some _ => .error (wrongType name .boolean)

def extractOptionalField (object : JsonObject) (name : String) (type : JsonType) : Result JsonValue :=
  match getField object name with
  | none => .ok .null
  | some value => if value.type = type then .ok value else .error (wrongType name type)

def extractRequiredObject (object : JsonObject) (name : String) : Result JsonObject :=
  match getField object name with
  | none => .error (missing name)
  | some (.object fields) => .ok fields
  | some _ => .error (wrongType name .object)

end JsonObject

end TelegramBotApi
