import BoxedCalls.CommandLine.Arguments

namespace BoxedCalls

/-- The system gives the code of an error or its negative. -/
def hasCode (code expected : UInt32) : Bool :=
  code = expected || code + expected = 0

def ReadError.ofIO (error : IO.Error) : ReadError :=
  match error with
  | .noFileOrDirectory .. => .noSuchFile
  | .invalidArgument _ code _ =>
      if hasCode code 36 then .nameTooLong else .other (toString error)
  | .inappropriateType _ code _ =>
      if hasCode code 21 then .isDirectory
      else if hasCode code 20 then .notDirectory
      else .other (toString error)
  | error => .other (toString error)

def readSource (path : String) : IO (Except ReadError String) := do
  try
    let bytes ← IO.FS.readBinFile path
    match String.fromUTF8? bytes with
    | some text => return .ok text
    | none => return .error .invalidText
  catch error =>
    return .error (.ofIO error)

end BoxedCalls

open BoxedCalls in
def main (words : List String) : IO UInt32 := do
  let source ←
    match Invocation.parse? words with
    | some invocation => readSource invocation.path
    | none => pure (.error .noSuchFile)
  let outcome := runWith words fun _ => source
  IO.print outcome.stdout
  IO.eprint outcome.stderr
  return outcome.exitCode.toUInt32
