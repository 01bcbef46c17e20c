import BoxedCalls.Json.Value

namespace BoxedCalls.Json

def member? (members : List (String × Json)) (name : String) : Option (Option Json) :=
  match members.filter (fun member => member.1 = name) with
  | [] => some none
  | [member] => some (some member.2)
  | _ => none

def membersNamed (members : List (String × Json)) : List String → Option (List (Option Json))
  | [] => some []
  | name :: names =>
      match member? members name, membersNamed members names with
      | some value, some values => some (value :: values)
      | _, _ => none

def itemsInOrder : List String → List Json → Option (List (Option Json))
  | [], [] => some []
  | [], _ :: _ => none
  | _ :: names, [] => (itemsInOrder names []).map (none :: ·)
  | _ :: names, item :: items => (itemsInOrder names items).map (some item :: ·)

def fields? (names : List String) : Json → Option (List (Option Json))
  | .object members => membersNamed members names
  | .array items => itemsInOrder names items
  | _ => none

def required? {α : Type} (decode : Json → Option α) (field : Option Json) : Option α :=
  field.bind decode

def optional? {α : Type} (decode : Json → Option α) (default : α) (field : Option Json) :
    Option α :=
  match field with
  | none => some default
  | some json => decode json

def listOf? {α : Type} (decode : Json → Option α) : List Json → Option (List α)
  | [] => some []
  | item :: items =>
      match decode item, listOf? decode items with
      | some value, some values => some (value :: values)
      | _, _ => none

def arrayOf? {α : Type} (decode : Json → Option α) (json : Json) : Option (List α) :=
  json.array?.bind (listOf? decode)

def tagged? : Json → Option (Json × Json)
  | .object members =>
      match member? members "kind" with
      | some (some tag) => some (tag, .object members)
      | _ => none
  | .array (tag :: items) => some (tag, .array items)
  | _ => none

/-- The place of a tag among `tags`. A tagged value inside another one may give it as a number. -/
def tagIn? (tags : List String) (inner : Bool) : Json → Option String
  | .string tag => if tag ∈ tags then some tag else none
  | .int index => if inner && 0 ≤ index then tags[index.toNat]? else none
  | _ => none

end BoxedCalls.Json
