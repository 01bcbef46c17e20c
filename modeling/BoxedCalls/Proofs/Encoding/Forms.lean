import Mathlib.Data.List.Basic
import BoxedCalls.Encoding.CallUnit

namespace BoxedCalls

inductive Form where
  | scalar
  | number
  | span
  | expression
  | call
  | statement
  | declaration
  | unit
  | list (item : Form)
  deriving DecidableEq

namespace Form

@[reducible] def Value : Form → Type
  | scalar => Json
  | number => UInt64
  | span => Span
  | expression => Expression
  | call => Call
  | statement => Statement
  | declaration => Declaration
  | unit => CallUnit
  | list item => List item.Value

def decode : (form : Form) → Json → Option form.Value
  | scalar => some
  | number => Json.uint64?
  | span => Span.ofJson?
  | expression => Expression.ofJson? true
  | call => Call.ofJson? true
  | statement => Statement.ofJson?
  | declaration => Declaration.ofJson?
  | unit => CallUnit.ofJson?
  | list item => Json.arrayOf? item.decode

def default? : (form : Form) → Option form.Value
  | number => some (0 : UInt64)
  | span => some ({} : Span)
  | list _ => some []
  | _ => none

end Form

structure Field where
  name : String
  form : Form
  isOptional : Bool
  deriving DecidableEq

namespace Field

def default? (field : Field) : Option field.form.Value :=
  if field.isOptional then field.form.default? else none

def read (field : Field) : Option Json → Option field.form.Value
  | none => field.default?
  | some json => field.form.decode json

@[reducible] def Values : List Field → Type
  | [] => Unit
  | field :: fields => field.form.Value × Values fields

def readAll : (fields : List Field) → List (Option Json) → Option (Values fields)
  | [], [] => some ()
  | field :: fields, value :: values =>
      (field.read value).bind fun first =>
        (readAll fields values).bind fun rest => some (first, rest)
  | _, _ => none

end Field

def Json.tag? (json : Json) : Option Json :=
  json.tagged?.map Prod.fst

def Json.record? (fields : List Field) (json : Json) : Option (Field.Values fields) :=
  (json.fields? (fields.map Field.name)).bind (Field.readAll fields)

namespace Form

def spanFields : List Field :=
  [⟨"start", .number, true⟩, ⟨"end", .number, true⟩, ⟨"line", .number, false⟩,
    ⟨"column", .number, false⟩]

def callFields : List Field :=
  [⟨"name", .scalar, false⟩, ⟨"arguments", .list .expression, true⟩, ⟨"span", .span, true⟩]

def literalFields : List Field :=
  [⟨"value", .scalar, false⟩, ⟨"span", .span, true⟩]

def unitFields : List Field :=
  [⟨"function_name", .scalar, false⟩, ⟨"variables", .list .declaration, true⟩,
    ⟨"statements", .list .statement, true⟩]

@[reducible] def kindField : Field :=
  ⟨"kind", .scalar, false⟩

def expressionFields? : String → Option (List Field)
  | "null_literal" => some [⟨"span", .span, true⟩]
  | "variable" => some [⟨"name", .scalar, false⟩, ⟨"span", .span, true⟩]
  | "call" => some callFields
  | tag => if tag ∈ Expression.tags then some literalFields else none

def statementFields? : String → Option (List Field)
  | "call" => some [⟨"call", .call, false⟩]
  | "assign" => some [⟨"variable", .scalar, false⟩, ⟨"call", .call, false⟩]
  | _ => none

def variant? (form : Form) (json : Json) : Option String :=
  match form with
  | expression => json.tag?.bind (Json.tagIn? Expression.tags true)
  | statement => json.tag?.bind (Json.tagIn? Statement.tags false)
  | span => some ""
  | call => some ""
  | declaration => some ""
  | unit => some ""
  | _ => none

def fieldsOf? (form : Form) (variant : String) : Option (List Field) :=
  match form with
  | span => some spanFields
  | call => some callFields
  | declaration => some [⟨"name", .scalar, false⟩, ⟨"type", .scalar, false⟩]
  | unit => some unitFields
  | expression => (expressionFields? variant).map (kindField :: ·)
  | statement => (statementFields? variant).map (kindField :: ·)
  | _ => none

def fields? (form : Form) (json : Json) : Option (List Field) :=
  (form.variant? json).bind form.fieldsOf?

end Form

namespace Json

theorem membersNamed_length {members : List (String × Json)} {names : List String}
    {values : List (Option Json)} (h : membersNamed members names = some values) :
    values.length = names.length := by
  induction names generalizing values with
  | nil =>
    cases h
    rfl
  | cons name names ih =>
    unfold membersNamed at h
    split at h
    · next hrest =>
      cases h
      simp [ih hrest]
    · cases h

theorem membersNamed_cons_eq_some {members : List (String × Json)} {name : String}
    {names : List String} {value : Option Json} {values : List (Option Json)}
    (h : membersNamed members (name :: names) = some (value :: values)) :
    member? members name = some value ∧ membersNamed members names = some values := by
  unfold membersNamed at h
  split at h
  · next hfirst hrest =>
    cases h
    exact ⟨hfirst, hrest⟩
  · cases h

theorem itemsInOrder_length {names : List String} {items : List Json} {values : List (Option Json)}
    (h : itemsInOrder names items = some values) : values.length = names.length := by
  induction names generalizing items values with
  | nil =>
    cases items with
    | nil =>
      cases h
      rfl
    | cons item items => cases h
  | cons name names ih =>
    cases items with
    | nil =>
      obtain ⟨rest, hrest, rfl⟩ := Option.map_eq_some_iff.mp h
      simp [ih hrest]
    | cons item items =>
      obtain ⟨rest, hrest, rfl⟩ := Option.map_eq_some_iff.mp h
      simp [ih hrest]

theorem fields?_length {json : Json} {names : List String} {values : List (Option Json)}
    (h : json.fields? names = some values) : values.length = names.length := by
  cases json with
  | object members => exact membersNamed_length h
  | array items => exact itemsInOrder_length h
  | _ => cases h

end Json

namespace Field

variable (name : String) (form : Form) (value : Option Json)

theorem read_required : read ⟨name, form, false⟩ value = Json.required? form.decode value := by
  cases value <;> rfl

theorem read_optional {default : form.Value} (hdefault : form.default? = some default) :
    read ⟨name, form, true⟩ value = Json.optional? form.decode default value := by
  cases value with
  | none => exact hdefault
  | some json => rfl

end Field

open Form

def Json.SeesFields {α : Type} (fields : List Field) (decode : Json → Option α) : Prop :=
  ∃ build : Field.Values fields → Option α, ∀ json, decode json = (json.record? fields).bind build

namespace Json.SeesFields

variable {α : Type}

theorem of_values {fields : List Field} {decode : Json → Option α} (names : List String)
    (hnames : fields.map Field.name = names) (build : Field.Values fields → Option α)
    (hnone : ∀ json, json.fields? names = none → decode json = none)
    (hsome : ∀ json values, values.length = names.length → json.fields? names = some values →
      decode json = (Field.readAll fields values).bind build) :
    SeesFields fields decode := by
  refine ⟨build, fun json => ?_⟩
  unfold record?
  rw [hnames]
  cases hfields : json.fields? names with
  | none => exact hnone json hfields
  | some values => exact hsome json values (fields?_length hfields) hfields

theorem span : SeesFields spanFields Span.ofJson? := by
  refine of_values Span.fieldNames rfl (fun values =>
    some ⟨values.1, values.2.1, values.2.2.1, values.2.2.2.1⟩) ?_ ?_
  · intro json hfields
    rw [Span.ofJson?, hfields]
  · intro json values hlength hfields
    obtain ⟨start, values, rfl⟩ := List.exists_cons_of_length_eq_add_one hlength
    obtain ⟨stop, line, column, rfl⟩ := List.length_eq_three.mp (Nat.succ.inj hlength)
    rw [Span.ofJson?, hfields]
    simp only [spanFields, Field.readAll, Field.read_required,
      Field.read_optional _ .number _ rfl, Option.bind_some, Option.bind_assoc]
    rfl

theorem literal {β : Type} (decode : Json → Option β) (literal : β → Literal) :
    SeesFields literalFields (Expression.literalOf? decode literal) := by
  refine of_values ["value", "span"] rfl (fun values =>
    (decode values.1).bind fun value => some (.literal (literal value) values.2.1)) ?_ ?_
  · intro json hfields
    rw [Expression.literalOf?, hfields]
  · intro json values hlength hfields
    obtain ⟨value, span, rfl⟩ := List.length_eq_two.mp hlength
    rw [Expression.literalOf?, hfields]
    simp only [literalFields, Field.readAll, Field.read_required,
      Field.read_optional _ .span _ rfl, Option.bind_some, Option.bind_assoc]
    cases value with
    | none => rfl
    | some value => exact Option.bind_comm (decode value) (Expression.spanField? span)

theorem null : SeesFields [⟨"span", .span, true⟩] Expression.nullOf? := by
  refine of_values ["span"] rfl (fun values => some (.literal .null values.1)) ?_ ?_
  · intro json hfields
    rw [Expression.nullOf?, hfields]
  · intro json values hlength hfields
    obtain ⟨span, rfl⟩ := List.length_eq_one_iff.mp hlength
    rw [Expression.nullOf?, hfields]
    simp only [Field.readAll, Field.read_optional _ .span _ rfl, Option.bind_some,
      Option.bind_assoc]
    exact Option.map_eq_bind

theorem var : SeesFields [⟨"name", .scalar, false⟩, ⟨"span", .span, true⟩]
    Expression.variableOf? := by
  refine of_values ["name", "span"] rfl (fun values =>
    (Json.string? values.1).bind fun name => some (.var name values.2.1)) ?_ ?_
  · intro json hfields
    rw [Expression.variableOf?, hfields]
  · intro json values hlength hfields
    obtain ⟨name, span, rfl⟩ := List.length_eq_two.mp hlength
    rw [Expression.variableOf?, hfields]
    simp only [Field.readAll, Field.read_required,
      Field.read_optional _ .span _ rfl, Option.bind_some, Option.bind_assoc]
    cases name with
    | none => rfl
    | some name => exact Option.bind_comm (Json.string? name) (Expression.spanField? span)

end Json.SeesFields

namespace Expression

theorem listOfJson?_eq (inner : Bool) (items : List Json) :
    listOfJson? inner items = Json.listOf? (ofJson? inner) items := by
  induction items with
  | nil => rfl
  | cons item items ih =>
    rw [listOfJson?, Json.listOf?, ih]
    cases ofJson? inner item with
    | none => rfl
    | some _ => cases Json.listOf? (ofJson? inner) items <;> rfl

theorem argumentsOfJson?_eq (inner : Bool) (json : Json) :
    argumentsOfJson? inner json = Json.arrayOf? (ofJson? inner) json := by
  cases json with
  | array items => exact listOfJson?_eq inner items
  | _ => rfl

def argumentsOf? (inner : Bool) : Json → Option (List Expression)
  | .object members => argumentsMember? inner members
  | .array items => argumentsItem? inner items
  | _ => none

theorem argumentsMember?_eq (inner : Bool) {members : List (String × Json)} {value : Option Json}
    (h : Json.member? members "arguments" = some value) :
    argumentsMember? inner members =
      Json.optional? (Json.arrayOf? (ofJson? inner)) [] value := by
  induction members with
  | nil =>
    cases h
    rfl
  | cons member rest ih =>
    obtain ⟨name, json⟩ := member
    rw [argumentsMember?]
    -- The arguments come from the first member of that name, and there is no other one.
    by_cases hname : name = "arguments"
    · rw [Json.member?, List.filter_cons_of_pos (by simpa using hname)] at h
      cases hrest : rest.filter fun member => member.1 = "arguments" with
      | nil =>
        rw [hrest] at h
        cases h
        rw [if_pos hname, argumentsOfJson?_eq]
        rfl
      | cons _ _ =>
        rw [hrest] at h
        cases h
    · rw [if_neg hname]
      refine ih ?_
      simpa [Json.member?, hname] using h

theorem argumentsOf?_eq (inner : Bool) {json : Json} {name value span : Option Json}
    (h : json.fields? ["name", "arguments", "span"] = some [name, value, span]) :
    argumentsOf? inner json = Json.optional? (Json.arrayOf? (ofJson? inner)) [] value := by
  cases json with
  | object members =>
    obtain ⟨_, hrest⟩ := Json.membersNamed_cons_eq_some h
    exact argumentsMember?_eq inner (Json.membersNamed_cons_eq_some hrest).1
  | array items =>
    rcases items with _ | ⟨_, _ | ⟨item, _ | ⟨_, _ | _⟩⟩⟩
    · cases h
      rfl
    · cases h
      rfl
    · cases h
      exact argumentsOfJson?_eq inner item
    · cases h
      exact argumentsOfJson?_eq inner item
    · cases h
  | _ => cases h

end Expression

namespace Json.SeesFields

theorem call : SeesFields callFields fun json =>
    Expression.callOf? json (Expression.argumentsOf? true json) := by
  refine of_values ["name", "arguments", "span"] rfl (fun values =>
    (Json.string? values.1).bind fun name => some ⟨name, values.2.1, values.2.2.1⟩) ?_ ?_
  · intro json hfields
    rw [Expression.callOf?, hfields]
  · intro json values hlength hfields
    obtain ⟨name, arguments, span, rfl⟩ := List.length_eq_three.mp hlength
    rw [Expression.callOf?, hfields, Expression.argumentsOf?_eq true hfields]
    simp only [callFields, Field.readAll, Field.read_required,
      Field.read_optional _ .span _ rfl, Field.read_optional _ (.list .expression) _ rfl,
      Option.bind_some, Option.bind_assoc]
    cases name with
    | none => rfl
    | some name =>
      -- The decoder looks into the name before it reads the other fields, `build` afterwards.
      change (Json.string? name).bind (fun name => Option.bind _ fun arguments =>
        Option.bind _ fun span => some _) = _
      rw [Option.bind_comm]
      refine Option.bind_congr fun arguments _ => ?_
      exact Option.bind_comm (Json.string? name) (Expression.spanField? span)

theorem statementCall : SeesFields [⟨"call", .call, false⟩] (Statement.bodyOf? "call") := by
  refine of_values ["call"] rfl (fun values => some (.call values.1)) ?_ ?_
  · intro json hfields
    simp only [Statement.bodyOf?, hfields]
  · intro json values hlength hfields
    obtain ⟨node, rfl⟩ := List.length_eq_one_iff.mp hlength
    simp only [Statement.bodyOf?, hfields, Field.readAll, Field.read_required, Option.bind_some,
      Option.bind_assoc]
    exact Option.map_eq_bind

theorem assignment : SeesFields [⟨"variable", .scalar, false⟩, ⟨"call", .call, false⟩]
    (Statement.bodyOf? "assign") := by
  refine of_values ["variable", "call"] rfl (fun values =>
    (Json.string? values.1).bind fun target => some (.assign target values.2.1)) ?_ ?_
  · intro json hfields
    simp only [Statement.bodyOf?, hfields]
  · intro json values hlength hfields
    obtain ⟨target, node, rfl⟩ := List.length_eq_two.mp hlength
    simp only [Statement.bodyOf?, hfields, Field.readAll, Field.read_required, Option.bind_some,
      Option.bind_assoc]
    cases target with
    | none => rfl
    | some target => exact Option.bind_comm (Json.string? target) _

theorem declaration : SeesFields [⟨"name", .scalar, false⟩, ⟨"type", .scalar, false⟩]
    Declaration.ofJson? := by
  refine of_values ["name", "type"] rfl (fun values =>
    (Json.string? values.1).bind fun name =>
      (VariableType.ofJson? values.2.1).bind fun type => some ⟨name, type⟩) ?_ ?_
  · intro json hfields
    rw [Declaration.ofJson?, hfields]
  · intro json values hlength hfields
    obtain ⟨name, type, rfl⟩ := List.length_eq_two.mp hlength
    rw [Declaration.ofJson?, hfields]
    simp only [Field.readAll, Field.read_required, Option.bind_some, Option.bind_assoc]
    cases name with
    | none => rfl
    | some name =>
      cases type with
      | none => exact Option.bind_fun_none _
      | some type => rfl

theorem unit : SeesFields unitFields CallUnit.ofJson? := by
  refine of_values CallUnit.fieldNames rfl (fun values =>
    (Json.string? values.1).bind fun name => some ⟨name, values.2.1, values.2.2.1⟩) ?_ ?_
  · intro json hfields
    rw [CallUnit.ofJson?, hfields]
  · intro json values hlength hfields
    obtain ⟨name, declarations, statements, rfl⟩ := List.length_eq_three.mp hlength
    rw [CallUnit.ofJson?, hfields]
    simp only [unitFields, Field.readAll, Field.read_required,
      Field.read_optional _ (.list .declaration) _ rfl,
      Field.read_optional _ (.list .statement) _ rfl, Option.bind_some, Option.bind_assoc]
    cases name with
    | none => rfl
    | some name =>
      change (Json.string? name).bind (fun name => Option.bind _ fun declarations =>
        Option.bind _ fun statements => some _) = _
      rw [Option.bind_comm]
      refine Option.bind_congr fun declarations _ => ?_
      exact Option.bind_comm (Json.string? name) _

theorem expressionBody {tag : String} {fields : List Field}
    (h : expressionFields? tag = some fields) :
    SeesFields fields fun body =>
      Expression.bodyOf? tag body (Expression.argumentsOf? true body) := by
  unfold expressionFields? at h
  split at h
  · cases h
    exact null
  · cases h
    exact var
  · cases h
    obtain ⟨build, hbuild⟩ := call
    exact ⟨fun values => (build values).map .ofCall, fun json =>
      (congrArg (Option.map Expression.ofCall) (hbuild json)).trans Option.map_bind⟩
  · next hnull hvar hcall =>
    split at h
    · next hmem =>
      cases h
      simp only [Expression.tags, List.mem_cons, List.not_mem_nil, or_false] at hmem
      rcases hmem with rfl | rfl | rfl | rfl | rfl | rfl | rfl | rfl | rfl | rfl
      · exact literal _ _
      · exact literal _ _
      · exact literal _ _
      · exact literal _ _
      · exact literal _ _
      · exact literal _ _
      · exact literal _ _
      · exact absurd rfl hnull
      · exact absurd rfl hvar
      · exact absurd rfl hcall
    · cases h

theorem statementBody {tag : String} {fields : List Field}
    (h : statementFields? tag = some fields) : SeesFields fields (Statement.bodyOf? tag) := by
  unfold statementFields? at h
  split at h
  · cases h
    exact statementCall
  · cases h
    exact assignment
  · cases h

end Json.SeesFields

theorem Expression.ofJson?_eq (inner : Bool) (json : Json) :
    Expression.ofJson? inner json = json.tagged?.bind fun tagged =>
      (Json.tagIn? tags inner tagged.1).bind fun tag =>
        bodyOf? tag tagged.2 (argumentsOf? true tagged.2) := by
  cases json with
  | object members =>
    rw [ofJson?, Json.tagged?]
    cases Json.member? members "kind" with
    | none => rfl
    | some tag => cases tag <;> rfl
  | array items => cases items <;> rfl
  | _ => rfl

theorem Call.ofJson?_eq (inner : Bool) (json : Json) :
    Call.ofJson? inner json =
      Expression.callOf? json (Expression.argumentsOf? inner json) := by
  cases json <;> rfl

namespace Json

variable (field : Field) (fields : List Field)

theorem record?_object_cons (members : List (String × Json)) :
    (object members).record? (field :: fields) =
      ((member? members field.name).bind field.read).bind fun first =>
        ((object members).record? fields).bind fun rest => some (first, rest) := by
  simp only [record?, fields?, List.map_cons, membersNamed]
  cases member? members field.name with
  | none => rfl
  | some value =>
    cases membersNamed members (fields.map Field.name) with
    | none => exact (Option.bind_fun_none _).symm
    | some values => rfl

theorem record?_array_cons (item : Json) (items : List Json) :
    (array (item :: items)).record? (field :: fields) =
      (field.read (some item)).bind fun first =>
        ((array items).record? fields).bind fun rest => some (first, rest) := by
  simp only [record?, fields?, List.map_cons, itemsInOrder]
  cases itemsInOrder (fields.map Field.name) items with
  | none => exact (Option.bind_fun_none _).symm
  | some values => rfl

theorem record?_tagged {json tag body : Json} (h : json.tagged? = some (tag, body)) :
    json.record? (kindField :: fields) =
      (body.record? fields).bind fun rest => some (tag, rest) := by
  cases json with
  | object members =>
    rw [record?_object_cons]
    unfold tagged? at h
    change ((member? members "kind").bind _).bind _ = _
    cases hmember : member? members "kind" with
    | none =>
      simp [hmember] at h
    | some value =>
      cases value with
      | none => simp [hmember] at h
      | some value =>
        simp only [hmember, Option.some.injEq, Prod.mk.injEq] at h
        obtain ⟨rfl, rfl⟩ := h
        rfl
  | array items =>
    cases items with
    | nil => cases h
    | cons item items =>
      cases h
      rw [record?_array_cons]
      rfl
  | _ => cases h

theorem SeesFields.tagged {α : Type} {tags : List String} {inner : Bool} {tag : String}
    {fields : List Field} (bodyOf : String → Json → Option α)
    (h : SeesFields fields (bodyOf tag)) :
    ∃ build : Field.Values (kindField :: fields) → Option α, ∀ json : Json,
      json.tag?.bind (tagIn? tags inner) = some tag →
        (json.tagged?.bind fun tagged =>
            (tagIn? tags inner tagged.1).bind fun tag => bodyOf tag tagged.2) =
          (json.record? (kindField :: fields)).bind build := by
  obtain ⟨build, hbuild⟩ := h
  refine ⟨fun values => build values.2, fun json hvariant => ?_⟩
  obtain ⟨value, hvalue, htag⟩ := Option.bind_eq_some_iff.mp hvariant
  obtain ⟨⟨_, body⟩, htagged, rfl⟩ := Option.map_eq_some_iff.mp hvalue
  rw [record?_tagged fields htagged, Option.bind_assoc, htagged]
  simp only [Option.bind_some] at htag ⊢
  rw [htag, Option.bind_some, hbuild body]

end Json

theorem Form.decode_of_fieldsOf? {form : Form} {variant : String} {fields : List Field}
    (h : form.fieldsOf? variant = some fields) :
    ∃ build : Field.Values fields → Option form.Value, ∀ json,
      form.variant? json = some variant → form.decode json = (json.record? fields).bind build := by
  have huntagged : Json.SeesFields fields form.decode →
      ∃ build : Field.Values fields → Option form.Value, ∀ json,
        form.variant? json = some variant → form.decode json = (json.record? fields).bind build :=
    fun ⟨build, hbuild⟩ => ⟨build, fun json _ => hbuild json⟩
  cases form with
  | span =>
    cases h
    exact huntagged .span
  | call =>
    cases h
    refine huntagged ?_
    obtain ⟨build, hbuild⟩ := Json.SeesFields.call
    exact ⟨build, fun json => (Call.ofJson?_eq true json).trans (hbuild json)⟩
  | declaration =>
    cases h
    exact huntagged .declaration
  | unit =>
    cases h
    exact huntagged .unit
  | expression =>
    obtain ⟨fields, hfields, rfl⟩ := Option.map_eq_some_iff.mp h
    obtain ⟨build, hbuild⟩ := Json.SeesFields.tagged
      (fun tag body => Expression.bodyOf? tag body (Expression.argumentsOf? true body))
      (Json.SeesFields.expressionBody hfields)
    exact ⟨build, fun json hvariant =>
      (Expression.ofJson?_eq true json).trans (hbuild json hvariant)⟩
  | statement =>
    obtain ⟨fields, hfields, rfl⟩ := Option.map_eq_some_iff.mp h
    exact Json.SeesFields.tagged Statement.bodyOf? (Json.SeesFields.statementBody hfields)
  | _ => cases h

end BoxedCalls
