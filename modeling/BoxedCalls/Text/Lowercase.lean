import BoxedCalls.Text.LetterCase
import BoxedCalls.Text.CharacterClass

namespace BoxedCalls.Text

def continuesWord (text : List Char) : Bool :=
  match text.dropWhile isCaseIgnorable with
  | [] => false
  | c :: _ => isCased c

def smallSigma (before after : List Char) : Char :=
  if continuesWord before && !continuesWord after then 'ς' else 'σ'

/-- The lower-case form of `text`, of which `before` holds what precedes it, last character
first. -/
def lowercaseAfter (before : List Char) : List Char → List Char
  | [] => []
  | c :: rest =>
      let lowered :=
        if c = 'Σ' then [smallSigma before rest]
        else if c = 'İ' then ['i', '\u0307']
        else [lowerChar c]
      lowered ++ lowercaseAfter (c :: before) rest

def lowercase (text : String) : String :=
  String.ofList (lowercaseAfter [] text.toList)

end BoxedCalls.Text
