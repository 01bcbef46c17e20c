import BoxedCalls.Json.Token

namespace BoxedCalls.Json

inductive Shape where
  | whole
  | unread
  | record (fields : List (String × Shape))
  | items (shape : Shape)
  deriving Repr

namespace Shape

def isUnread : Shape → Bool
  | .unread => true
  | _ => false

def member (shape : Shape) (key : String) : Shape :=
  match shape with
  | .record fields => (fields.lookup key).getD .unread
  | .unread => .unread
  | _ => .whole

def item (shape : Shape) (items : List Json) : Shape :=
  match shape with
  | .record fields => ((fields[items.length]?).map Prod.snd).getD .whole
  | .items shape => shape
  | shape => shape

end Shape

inductive Frame where
  | array (shape : Shape) (items : List Json)
  | object (shape : Shape) (members : List (String × Json)) (key : String)
  deriving Repr

inductive Expected where
  | value
  | itemOrEnd
  | key
  | keyOrEnd
  | colon
  | commaOrEnd
  | nothing (result : Json)
  deriving Repr

structure Reader where
  shape : Shape
  limit : Option Nat
  frames : List Frame
  expected : Expected

namespace Reader

def start (shape : Shape) (limit : Option Nat) : Reader :=
  ⟨shape, limit, [], .value⟩

def nextShape (r : Reader) : Shape :=
  match r.frames with
  | [] => r.shape
  | .array shape items :: _ => shape.item items
  | .object shape _ key :: _ => shape.member key

def accept (r : Reader) (value : Json) : Reader :=
  match r.frames with
  | [] => { r with expected := .nothing value }
  | .array shape items :: rest =>
      { r with frames := .array shape (value :: items) :: rest, expected := .commaOrEnd }
  | .object shape members key :: rest =>
      { r with frames := .object shape ((key, value) :: members) key :: rest,
               expected := .commaOrEnd }

def withinLimit (r : Reader) : Bool :=
  r.nextShape.isUnread || r.limit.all (r.frames.length < ·)

def openArray (r : Reader) : Option Reader :=
  if r.withinLimit then
    some { r with frames := .array r.nextShape [] :: r.frames, expected := .itemOrEnd }
  else none

def openObject (r : Reader) : Option Reader :=
  if r.withinLimit then
    some { r with frames := .object r.nextShape [] "" :: r.frames, expected := .keyOrEnd }
  else none

def close (r : Reader) : Option Reader :=
  match r.frames with
  | [] => none
  | .array _ items :: rest => some ({ r with frames := rest }.accept (.array items.reverse))
  | .object _ members _ :: rest =>
      some ({ r with frames := rest }.accept (.object members.reverse))

def scalar (r : Reader) (value : Option Json) : Option Reader :=
  if r.nextShape.isUnread then some (r.accept .null) else value.map r.accept

def value (r : Reader) : Token → Option Reader
  | .null => r.scalar (some .null)
  | .bool b => r.scalar (some (.bool b))
  | .number numeral => r.scalar numeral.value?
  | .text text => r.scalar (text.map .string)
  | .arrayStart => r.openArray
  | .objectStart => r.openObject
  | _ => none

def key (r : Reader) (text : Option String) : Option Reader :=
  match r.frames with
  | .object shape members _ :: rest =>
      let key := if shape.isUnread then some "" else text
      key.map fun key =>
        { r with frames := .object shape members key :: rest, expected := .colon }
  | _ => none

def comma (r : Reader) : Option Reader :=
  match r.frames with
  | .array _ _ :: _ => some { r with expected := .value }
  | .object _ _ _ :: _ => some { r with expected := .key }
  | [] => none

def endsArray (r : Reader) : Bool :=
  match r.frames with
  | .array _ _ :: _ => true
  | _ => false

def endsObject (r : Reader) : Bool :=
  match r.frames with
  | .object _ _ _ :: _ => true
  | _ => false

def step (r : Reader) (token : Token) : Option Reader :=
  match r.expected, token with
  | .value, token => r.value token
  | .itemOrEnd, .arrayEnd => r.close
  | .itemOrEnd, token => r.value token
  | .key, .text text => r.key text
  | .keyOrEnd, .text text => r.key text
  | .keyOrEnd, .objectEnd => r.close
  | .colon, .colon => some { r with expected := .value }
  | .commaOrEnd, .comma => r.comma
  | .commaOrEnd, .arrayEnd => if r.endsArray then r.close else none
  | .commaOrEnd, .objectEnd => if r.endsObject then r.close else none
  | _, _ => none

def result? (r : Reader) : Option Json :=
  match r.expected with
  | .nothing result => some result
  | _ => none

def run : Nat → List Char → Reader → Option Reader
  | 0, _, _ => none
  | count + 1, text, r =>
      match text.dropWhile isBlank with
      | [] => some r
      | text =>
          match splitToken text with
          | none => none
          | some (token, rest) =>
              match r.step token with
              | none => none
              | some r => run count rest r

end Reader

def read? (shape : Shape) (limit : Option Nat) (text : String) : Option Json :=
  let characters := text.toList
  match Reader.run (characters.length + 1) characters (Reader.start shape limit) with
  | none => none
  | some r => r.result?

end BoxedCalls.Json
