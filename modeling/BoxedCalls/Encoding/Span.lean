import BoxedCalls.Encoding.Record
import BoxedCalls.Syntax.Span

namespace BoxedCalls.Span

def fieldNames : List String :=
  ["start", "end", "line", "column"]

def ofJson? (json : Json) : Option Span :=
  match json.fields? fieldNames with
  | some [start, stop, line, column] => do
      let start ← Json.optional? Json.uint64? 0 start
      let stop ← Json.optional? Json.uint64? 0 stop
      let line ← Json.required? Json.uint64? line
      let column ← Json.required? Json.uint64? column
      return { start, stop, line, column }
  | _ => none

def toJson (span : Span) : Json :=
  .object [("start", .int span.start.toNat), ("end", .int span.stop.toNat),
    ("line", .int span.line.toNat), ("column", .int span.column.toNat)]

theorem ofJson?_toJson (span : Span) : ofJson? span.toJson = some span := by
  simp [ofJson?, toJson, fieldNames, Json.fields?, Json.membersNamed, Json.member?,
    Json.optional?, Json.required?, Json.uint64?_toNat]

end BoxedCalls.Span
