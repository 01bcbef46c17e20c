import BoxedCalls.Compile.Unit
import BoxedCalls.Encoding.CallUnit
import BoxedCalls.Json.Printer
import BoxedCalls.Report.Failure

namespace BoxedCalls

inductive ReportFormat where
  | text
  | json
  deriving DecidableEq, Repr

namespace ReportFormat

def name : ReportFormat → String
  | text => "text"
  | json => "json"

def parse (name : String) : Except String ReportFormat :=
  if name = text.name then .ok text
  else if name = json.name then .ok json
  else .error ("invalid report format '" ++ name ++ "'")

end ReportFormat

inductive ReadError where
  | noSuchFile
  | isDirectory
  | notDirectory
  | nameTooLong
  | nulInPath
  | invalidText
  | other (message : String)
  deriving DecidableEq, Repr

def ReadError.message : ReadError → String
  | noSuchFile => "No such file or directory (os error 2)"
  | isDirectory => "Is a directory (os error 21)"
  | notDirectory => "Not a directory (os error 20)"
  | nameTooLong => "File name too long (os error 36)"
  | nulInPath => "file name contained an unexpected NUL byte"
  | invalidText => "stream did not contain valid UTF-8"
  | other message => message

structure UnitReport where
  path : String
  code : Option String := none
  headers : List String := []
  warnings : List LocatedWarning := []
  failure : Option Failure := none
  deriving DecidableEq, Repr

namespace UnitReport

def succeeded (report : UnitReport) : Bool :=
  report.failure.isNone

def ofFailure (path : String) (failure : Failure) : UnitReport :=
  { path, failure := some failure }

def ofUnit (path : String) (unit : CompiledFunction) : UnitReport :=
  { path
    code := some unit.code
    headers := unit.headers
    warnings := unit.warnings.map (⟨path, ·⟩) }

def ofSource (path : String) (source : Except ReadError String) : UnitReport :=
  match source with
  | .error error =>
      ofFailure path ({ kind := .readInput, message := error.message : Failure }.withPath path)
  | .ok text =>
      match CallUnit.parse? text with
      | none =>
          ofFailure path
            (({ kind := .invalidCallUnit, message := "invalid call unit" : Failure }.withPath
              path).withDetail "the text does not hold a call unit")
      | some unit =>
          match (compileUnit unit .standard).1 with
          | .ok compiled => ofUnit path compiled
          | .error error => ofFailure path (.ofError path error)

def toJson (report : UnitReport) : Json :=
  .object (("path", .string report.path) ::
    Json.optionalMember "code" .string report.code ++
    ("headers", .array (report.headers.map .string)) ::
    ("warnings", .array (report.warnings.map LocatedWarning.toJson)) ::
    Json.optionalMember "failure" Failure.toJson report.failure)

end UnitReport

structure Outcome where
  exitCode : UInt8
  stdout : String
  stderr : String
  deriving DecidableEq, Repr

def asLines (lines : List String) : String :=
  String.join (lines.map (· ++ "\n"))

namespace UnitReport

def includes (headers : List String) : String :=
  if headers.isEmpty then ""
  else asLines (headers.map fun header => "#include \"" ++ header ++ ".h\"") ++ "\n"

def textOutcome (report : UnitReport) : Outcome :=
  let warnings := asLines (report.warnings.map LocatedWarning.render)
  match report.failure with
  | some failure => ⟨1, "", warnings ++ failure.render ++ "\n"⟩
  | none => ⟨0, includes report.headers ++ report.code.getD "", warnings⟩

def outcome (report : UnitReport) : ReportFormat → Outcome
  | .text => report.textOutcome
  | .json => ⟨if report.succeeded then 0 else 1, report.toJson.pretty ++ "\n", ""⟩

end UnitReport

end BoxedCalls
