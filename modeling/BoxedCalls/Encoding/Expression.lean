import BoxedCalls.Encoding.Span
import BoxedCalls.Syntax.Expression

namespace BoxedCalls

def Literal.tag : Literal → String
  | int _ => "int_literal"
  | uint _ => "uint_literal"
  | long _ => "long_literal"
  | ulong _ => "ulong_literal"
  | double _ => "double_literal"
  | bool _ => "bool_literal"
  | string _ => "string_literal"
  | null => "null_literal"

def Literal.members : Literal → List (String × Json)
  | int value => [("value", .int value.toInt)]
  | uint value => [("value", .int value.toNat)]
  | long value => [("value", .int value.toInt)]
  | ulong value => [("value", .int value.toNat)]
  | double value => [("value", if value.isFinite then .double value else .null)]
  | bool value => [("value", .bool value)]
  | string value => [("value", .string value)]
  | null => []

namespace Expression

def tags : List String :=
  ["int_literal", "uint_literal", "long_literal", "ulong_literal", "double_literal",
    "bool_literal", "string_literal", "null_literal", "variable", "call"]

def spanField? (field : Option Json) : Option Span :=
  Json.optional? Span.ofJson? {} field

def literalOf? {α : Type} (decode : Json → Option α) (literal : α → Literal) (body : Json) :
    Option Expression :=
  match body.fields? ["value", "span"] with
  | some [value, span] => do
      let value ← Json.required? decode value
      let span ← spanField? span
      return .literal (literal value) span
  | _ => none

def nullOf? (body : Json) : Option Expression :=
  match body.fields? ["span"] with
  | some [span] => (spanField? span).map (.literal .null)
  | _ => none

def variableOf? (body : Json) : Option Expression :=
  match body.fields? ["name", "span"] with
  | some [name, span] => do
      let name ← Json.required? Json.string? name
      let span ← spanField? span
      return .var name span
  | _ => none

def callOf? (body : Json) (arguments : Option (List Expression)) : Option Call :=
  match body.fields? ["name", "arguments", "span"] with
  | some [name, _, span] => do
      let name ← Json.required? Json.string? name
      let arguments ← arguments
      let span ← spanField? span
      return { function := name, arguments, span }
  | _ => none

def bodyOf? (tag : String) (body : Json) (arguments : Option (List Expression)) :
    Option Expression :=
  match tag with
  | "int_literal" => literalOf? Json.int64? .int body
  | "uint_literal" => literalOf? Json.uint64? .uint body
  | "long_literal" => literalOf? Json.int64? .long body
  | "ulong_literal" => literalOf? Json.uint64? .ulong body
  | "double_literal" => literalOf? Json.double? .double body
  | "bool_literal" => literalOf? Json.bool? .bool body
  | "string_literal" => literalOf? Json.string? .string body
  | "null_literal" => nullOf? body
  | "variable" => variableOf? body
  | "call" => (callOf? body arguments).map ofCall
  | _ => none

mutual

/-- `inner` holds for an expression inside a tagged value. -/
def ofJson? (inner : Bool) : Json → Option Expression
  | .object members =>
      match Json.member? members "kind" with
      | some (some tag) =>
          (Json.tagIn? tags inner tag).bind fun tag =>
            bodyOf? tag (.object members) (argumentsMember? true members)
      | _ => none
  | .array (tag :: items) =>
      (Json.tagIn? tags inner tag).bind fun tag =>
        bodyOf? tag (.array items) (argumentsItem? true items)
  | _ => none

def argumentsMember? (inner : Bool) : List (String × Json) → Option (List Expression)
  | [] => some []
  | (name, value) :: rest =>
      if name = "arguments" then argumentsOfJson? inner value else argumentsMember? inner rest

def argumentsItem? (inner : Bool) : List Json → Option (List Expression)
  | _ :: value :: _ => argumentsOfJson? inner value
  | _ => some []

def argumentsOfJson? (inner : Bool) : Json → Option (List Expression)
  | .array items => listOfJson? inner items
  | _ => none

def listOfJson? (inner : Bool) : List Json → Option (List Expression)
  | [] => some []
  | item :: items =>
      match ofJson? inner item, listOfJson? inner items with
      | some expression, some expressions => some (expression :: expressions)
      | _, _ => none

end

mutual

def toJson : Expression → Json
  | .literal value span =>
      .object (("kind", .string value.tag) :: value.members ++ [("span", span.toJson)])
  | .var name span =>
      .object [("kind", .string "variable"), ("name", .string name), ("span", span.toJson)]
  | .call function arguments span =>
      .object [("kind", .string "call"), ("name", .string function),
        ("arguments", .array (listToJson arguments)), ("span", span.toJson)]

def listToJson : List Expression → List Json
  | [] => []
  | expression :: rest => expression.toJson :: listToJson rest

end

end Expression

namespace Call

def ofJson? (inner : Bool) : Json → Option Call
  | .object members =>
      Expression.callOf? (.object members) (Expression.argumentsMember? inner members)
  | .array items => Expression.callOf? (.array items) (Expression.argumentsItem? inner items)
  | _ => none

def toJson (call : Call) : Json :=
  .object [("name", .string call.function),
    ("arguments", .array (Expression.listToJson call.arguments)), ("span", call.span.toJson)]

end Call

end BoxedCalls
