import BoxedCalls.Report.UnitReport

namespace BoxedCalls

structure Invocation where
  path : String
  format : ReportFormat
  deriving DecidableEq, Repr

namespace Invocation

structure Draft where
  path : Option String := none
  format : Option ReportFormat := none
  deriving Repr

def Draft.withPath? (draft : Draft) (path : String) : Option Draft :=
  if path.isEmpty || draft.path.isSome then none else some { draft with path }

def Draft.withFormat? (draft : Draft) (name : String) : Option Draft :=
  if draft.format.isSome then none
  else
    match ReportFormat.parse name with
    | .ok format => some { draft with format }
    | .error _ => none

def formatOption : String := "--report-format"

def isOption (word : String) : Bool :=
  match word.toList with
  | '-' :: _ :: _ => true
  | _ => false

def inlineFormat? (word : String) : Option String :=
  let mark := (formatOption ++ "=").toList
  if mark.isPrefixOf word.toList then some (String.ofList (word.toList.drop mark.length)) else none

def readPaths (draft : Draft) : List String → Option Draft
  | [] => some draft
  | word :: rest => (draft.withPath? word).bind (readPaths · rest)

def readWords (draft : Draft) : List String → Option Draft
  | [] => some draft
  | word :: rest =>
      if word = "--" then readPaths draft rest
      else if word = formatOption then
        match rest with
        | [] => none
        | name :: rest => (draft.withFormat? name).bind (readWords · rest)
      else
        match inlineFormat? word with
        | some name => (draft.withFormat? name).bind (readWords · rest)
        | none =>
            if isOption word then none else (draft.withPath? word).bind (readWords · rest)

def parse? : List String → Option Invocation
  | "compile" :: words =>
      (readWords {} words).bind fun draft =>
        draft.path.map fun path => ⟨path, draft.format.getD .text⟩
  | _ => none

end Invocation

def usage : String :=
  "usage: compile [--report-format text|json] PATH\n"

def runWith (words : List String) (read : String → Except ReadError String) : Outcome :=
  match Invocation.parse? words with
  | none => ⟨2, "", usage⟩
  | some invocation =>
      (UnitReport.ofSource invocation.path (read invocation.path)).outcome invocation.format

end BoxedCalls
