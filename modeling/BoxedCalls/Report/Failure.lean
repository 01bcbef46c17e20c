import BoxedCalls.Encoding.Span
import BoxedCalls.Scope.Diagnostic

namespace BoxedCalls

structure LocatedWarning where
  path : String
  warning : Warning
  deriving DecidableEq, Repr

namespace LocatedWarning

def render (w : LocatedWarning) : String :=
  w.path ++ ":" ++ w.warning.span.render ++ ": warning: " ++ w.warning.message ++
    " [-W" ++ w.warning.tag ++ "]"

def toJson (w : LocatedWarning) : Json :=
  .object [("path", .string w.path), ("tag", .string w.warning.tag),
    ("message", .string w.warning.message), ("span", w.warning.span.toJson)]

end LocatedWarning

inductive FailureKind where
  | readInput
  | invalidCallUnit
  | compilationFailed
  deriving DecidableEq, Repr

namespace FailureKind

def all : List FailureKind :=
  [readInput, invalidCallUnit, compilationFailed]

def name : FailureKind → String
  | readInput => "read_input"
  | invalidCallUnit => "invalid_call_unit"
  | compilationFailed => "compilation_failed"

def ofName? (name : String) : Option FailureKind :=
  all.find? (·.name = name)

theorem ofName?_name (kind : FailureKind) : ofName? kind.name = some kind := by
  cases kind <;> decide

end FailureKind

structure FailureDetail where
  message : String
  path : Option String
  deriving DecidableEq, Repr

structure Failure where
  kind : FailureKind
  message : String
  path : Option String := none
  span : Option Span := none
  details : List FailureDetail := []
  deriving DecidableEq, Repr

namespace Failure

def withPath (failure : Failure) (path : String) : Failure :=
  { failure with path := some path }

def withDetail (failure : Failure) (message : String) : Failure :=
  { failure with details := failure.details ++ [⟨message, failure.path⟩] }

def ofError (path : String) (error : CompileError) : Failure :=
  { kind := .compilationFailed
    message := error.message
    path := some path
    span := if error.span.isSynthesized then none else some error.span }

def location (failure : Failure) : String :=
  match failure.path, failure.span with
  | some path, some span => path ++ ":" ++ span.render ++ ": "
  | some path, none => path ++ ": "
  | none, _ => ""

def render (failure : Failure) : String :=
  failure.location ++ "error: " ++ failure.message ++
    String.join (failure.details.map fun detail => "\n  " ++ detail.message)

end Failure

def Json.optionalMember {α : Type} (name : String) (encode : α → Json) (value : Option α) :
    List (String × Json) :=
  (value.map fun value => (name, encode value)).toList

def FailureDetail.toJson (detail : FailureDetail) : Json :=
  .object (("message", .string detail.message) ::
    Json.optionalMember "path" .string detail.path)

def Failure.toJson (failure : Failure) : Json :=
  .object (("kind", .string failure.kind.name) :: ("message", .string failure.message) ::
    Json.optionalMember "path" .string failure.path ++
    Json.optionalMember "span" Span.toJson failure.span ++
    if failure.details.isEmpty then []
    else [("details", .array (failure.details.map FailureDetail.toJson))])

end BoxedCalls
