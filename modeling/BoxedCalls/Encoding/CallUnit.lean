import BoxedCalls.Encoding.Expression
import BoxedCalls.Json.Reader
import BoxedCalls.Syntax.CallUnit

namespace BoxedCalls

def VariableType.ofJson? : Json → Option VariableType
  | .string name => ofName? name
  | .object [(name, .null)] => ofName? name
  | _ => none

def Declaration.ofJson? (json : Json) : Option Declaration :=
  match json.fields? ["name", "type"] with
  | some [name, type] => do
      let name ← Json.required? Json.string? name
      let type ← Json.required? VariableType.ofJson? type
      return { name, type }
  | _ => none

namespace Statement

def tags : List String :=
  ["call", "assign"]

def bodyOf? (tag : String) (body : Json) : Option Statement :=
  match tag with
  | "call" =>
      match body.fields? ["call"] with
      | some [node] => (Json.required? (Call.ofJson? true) node).map .call
      | _ => none
  | "assign" =>
      match body.fields? ["variable", "call"] with
      | some [target, node] => do
          let target ← Json.required? Json.string? target
          let node ← Json.required? (Call.ofJson? true) node
          return .assign target node
      | _ => none
  | _ => none

def ofJson? (json : Json) : Option Statement := do
  let (tag, body) ← json.tagged?
  let tag ← Json.tagIn? tags false tag
  bodyOf? tag body

end Statement

namespace CallUnit

def fieldNames : List String :=
  ["function_name", "variables", "statements"]

def ofJson? (json : Json) : Option CallUnit :=
  match json.fields? fieldNames with
  | some [functionName, declarations, statements] => do
      let functionName ← Json.required? Json.string? functionName
      let declarations ← Json.optional? (Json.arrayOf? Declaration.ofJson?) [] declarations
      let statements ← Json.optional? (Json.arrayOf? Statement.ofJson?) [] statements
      return { functionName, declarations, statements }
  | _ => none

def declarationShape : Json.Shape :=
  .record [("name", .whole), ("type", .whole)]

def shape : Json.Shape :=
  .record [("function_name", .whole), ("variables", .items declarationShape),
    ("statements", .whole)]

end CallUnit

def nestingLimit : Nat := 127

def CallUnit.parse? (source : String) : Option CallUnit :=
  (Json.read? shape (some nestingLimit) source).bind ofJson?

def Expression.parse? (source : String) : Option Expression :=
  (Json.read? .whole (some nestingLimit) source).bind (ofJson? false)

def Span.parse? (source : String) : Option Span :=
  (Json.read? (.record (fieldNames.map (·, .whole))) (some nestingLimit) source).bind ofJson?

end BoxedCalls
