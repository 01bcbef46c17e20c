import Mathlib.Data.List.Nodup
import Mathlib.Logic.Relation
import BoxedCalls.Proofs.Encoding.Forms
import BoxedCalls.Proofs.Encoding.RoundTrip

namespace BoxedCalls

inductive Json.Replaces (fields : List Field) (field : Field) (value value' : Json) :
    Json → Json → Prop where
  | member (earlier later : List (String × Json)) (hmem : field ∈ fields) :
      Replaces fields field value value' (.object (earlier ++ (field.name, value) :: later))
        (.object (earlier ++ (field.name, value') :: later))
  | item (earlier later : List Json) (hplace : fields[earlier.length]? = some field) :
      Replaces fields field value value' (.array (earlier ++ value :: later))
        (.array (earlier ++ value' :: later))

/-- One change at any depth. Where a member stands makes no difference, as members may be
reordered. -/
inductive Form.Change : Form → Json → Json → Prop where
  | reorder {form fields members members'} (hfields : form.fields? (.object members) = some fields)
      (hperm : members.Perm members') : Change form (.object members) (.object members')
  | ignore {form fields members} (hfields : form.fields? (.object members) = some fields)
      {name : String} (hname : name ∉ fields.map Field.name) (value : Json) :
      Change form (.object members) (.object ((name, value) :: members))
  | leaveOut {form fields members} (hfields : form.fields? (.object members) = some fields)
      {field : Field} (hmem : field ∈ fields) {default : field.form.Value}
      (hdefault : field.default? = some default) {value : Json}
      (hvalue : field.form.decode value = some default)
      (habsent : ∀ member ∈ members, member.1 ≠ field.name) :
      Change form (.object ((field.name, value) :: members)) (.object members)
  | inside {form fields field value value' json json'} (hfields : form.fields? json = some fields)
      (hreplaces : Json.Replaces fields field value value' json json')
      (hchange : Change field.form value value') : Change form json json'
  | item {item value value'} (earlier later : List Json) (hchange : Change item value value') :
      Change (.list item) (.array (earlier ++ value :: later))
        (.array (earlier ++ value' :: later))

inductive Form.Nullifies : Form → Json → Json → Prop where
  | here {form fields field value json json'} (hfields : form.fields? json = some fields)
      (hreplaces : Json.Replaces fields field value .null json json')
      (hoptional : field.default?.isSome = true) : Nullifies form json json'
  | inside {form fields field value value' json json'} (hfields : form.fields? json = some fields)
      (hreplaces : Json.Replaces fields field value value' json json')
      (hnullifies : Nullifies field.form value value') : Nullifies form json json'
  | item {item value value'} (earlier later : List Json)
      (hnullifies : Nullifies item value value') :
      Nullifies (.list item) (.array (earlier ++ value :: later))
        (.array (earlier ++ value' :: later))

namespace Form

theorem expressionFields?_nodup {variant : String} {fields : List Field}
    (h : expressionFields? variant = some fields) :
    ((kindField :: fields).map Field.name).Nodup := by
  unfold expressionFields? at h
  split at h
  · cases h
    decide
  · cases h
    decide
  · cases h
    decide
  · split at h
    · cases h
      decide
    · cases h

theorem statementFields?_nodup {variant : String} {fields : List Field}
    (h : statementFields? variant = some fields) :
    ((kindField :: fields).map Field.name).Nodup := by
  unfold statementFields? at h
  split at h
  · cases h
    decide
  · cases h
    decide
  · cases h

theorem fieldsOf?_nodup {form : Form} {variant : String} {fields : List Field}
    (h : form.fieldsOf? variant = some fields) : (fields.map Field.name).Nodup := by
  cases form with
  | expression =>
    obtain ⟨fields, hfields, rfl⟩ := Option.map_eq_some_iff.mp h
    exact expressionFields?_nodup hfields
  | statement =>
    obtain ⟨fields, hfields, rfl⟩ := Option.map_eq_some_iff.mp h
    exact statementFields?_nodup hfields
  | span => cases h; decide
  | call => cases h; decide
  | declaration => cases h; decide
  | unit => cases h; decide
  | _ => cases h

variable {form : Form} {fields : List Field} {json : Json}

theorem fields?_nodup (h : form.fields? json = some fields) :
    (fields.map Field.name).Nodup := by
  obtain ⟨_, _, hfields⟩ := Option.bind_eq_some_iff.mp h
  exact fieldsOf?_nodup hfields

theorem field_eq_of_name (h : form.fields? json = some fields) {field other : Field}
    (hfield : field ∈ fields) (hother : other ∈ fields) (hname : field.name = other.name) :
    field = other :=
  List.inj_on_of_nodup_map (fields?_nodup h) hfield hother hname

theorem decode_congr {json' : Json} (h : form.fields? json = some fields)
    (hvariant : form.variant? json' = form.variant? json)
    (hrecord : json'.record? fields = json.record? fields) :
    form.decode json' = form.decode json := by
  obtain ⟨variant, hjson, hfields⟩ := Option.bind_eq_some_iff.mp h
  obtain ⟨build, hbuild⟩ := decode_of_fieldsOf? hfields
  rw [hbuild json hjson, hbuild json' (hvariant.trans hjson), hrecord]

theorem decode_eq_none {json' : Json} (h : form.fields? json = some fields)
    (hvariant : form.variant? json' = form.variant? json)
    (hrecord : json'.record? fields = none) : form.decode json' = none := by
  obtain ⟨variant, hjson, hfields⟩ := Option.bind_eq_some_iff.mp h
  obtain ⟨build, hbuild⟩ := decode_of_fieldsOf? hfields
  rw [hbuild json' (hvariant.trans hjson), hrecord]
  rfl

end Form

namespace Json

section Members

variable {members members' : List (String × Json)} {fields : List Field}

theorem member?_perm (h : members.Perm members') (name : String) :
    member? members name = member? members' name := by
  have hfilter := h.filter (fun member => decide (member.1 = name))
  unfold member?
  generalize members.filter (fun member => decide (member.1 = name)) = named at hfilter ⊢
  generalize members'.filter (fun member => decide (member.1 = name)) = named' at hfilter ⊢
  rcases named with _ | ⟨_, _ | _⟩
  · rw [hfilter.nil_eq]
  · rw [hfilter.singleton_eq]
  · rcases named' with _ | ⟨_, _ | _⟩
    · cases hfilter.length_eq
    · cases hfilter.length_eq
    · rfl

theorem member?_append_cons_of_ne {name other : String} (h : other ≠ name)
    (earlier later : List (String × Json)) (value : Json) :
    member? (earlier ++ (other, value) :: later) name = member? (earlier ++ later) name := by
  simp [member?, h]

theorem member?_append_cons (name : String) (earlier later : List (String × Json)) :
    (∀ value, member? (earlier ++ (name, value) :: later) name = some (some value)) ∨
      ∀ value, member? (earlier ++ (name, value) :: later) name = none := by
  have hnamed : ∀ value : Json, (earlier ++ (name, value) :: later).filter
        (fun member => decide (member.1 = name)) =
      earlier.filter (fun member => decide (member.1 = name)) ++
        (name, value) :: later.filter (fun member => decide (member.1 = name)) := by
    simp
  simp only [member?, hnamed]
  generalize earlier.filter (fun member => decide (member.1 = name)) = before
  generalize later.filter (fun member => decide (member.1 = name)) = after
  cases before with
  | nil =>
    cases after with
    | nil => exact .inl fun _ => rfl
    | cons _ _ => exact .inr fun _ => rfl
  | cons _ before => cases before <;> exact .inr fun _ => rfl

theorem record?_object_congr
    (h : ∀ field ∈ fields, (member? members field.name).bind field.read =
      (member? members' field.name).bind field.read) :
    (object members).record? fields = (object members').record? fields := by
  induction fields with
  | nil => rfl
  | cons field fields ih =>
    obtain ⟨hfirst, hrest⟩ := List.forall_mem_cons.mp h
    rw [record?_object_cons, record?_object_cons, hfirst, ih hrest]

theorem record?_object_eq_none {field : Field} (hmem : field ∈ fields)
    (h : (member? members field.name).bind field.read = none) :
    (object members).record? fields = none := by
  induction fields with
  | nil => cases hmem
  | cons first fields ih =>
    rw [record?_object_cons]
    rcases List.mem_cons.mp hmem with rfl | hmem
    · rw [h]
      rfl
    · rw [ih hmem]
      exact Option.bind_fun_none _

end Members

section Items

variable {items items' later : List Json} {fields : List Field} {field : Field}
  {value value' : Json}

theorem record?_array_congr (earlier : List Json) (hplace : fields[earlier.length]? = some field)
    (h : field.form.decode value = field.form.decode value') :
    (array (earlier ++ value :: later)).record? fields =
      (array (earlier ++ value' :: later)).record? fields := by
  induction earlier generalizing fields with
  | nil =>
    cases fields with
    | nil => cases hplace
    | cons first fields =>
      cases hplace
      rw [List.nil_append, List.nil_append, record?_array_cons, record?_array_cons]
      exact congrArg (Option.bind · _) h
  | cons item earlier ih =>
    cases fields with
    | nil => cases hplace
    | cons first fields =>
      rw [List.cons_append, List.cons_append, record?_array_cons, record?_array_cons, ih hplace]

theorem record?_array_eq_none (earlier : List Json)
    (hplace : fields[earlier.length]? = some field) (h : field.form.decode value = none) :
    (array (earlier ++ value :: later)).record? fields = none := by
  induction earlier generalizing fields with
  | nil =>
    cases fields with
    | nil => cases hplace
    | cons first fields =>
      cases hplace
      rw [List.nil_append, record?_array_cons]
      exact congrArg (Option.bind · _) h
  | cons item earlier ih =>
    cases fields with
    | nil => cases hplace
    | cons first fields =>
      rw [List.cons_append, record?_array_cons, ih hplace]
      exact Option.bind_fun_none _

end Items

end Json

namespace Form

variable {form : Form} {fields : List Field}

theorem tag?_object (members : List (String × Json)) :
    (Json.object members).tag? = (Json.member? members "kind").bind kindField.read := by
  unfold Json.tag? Json.tagged?
  cases hmember : Json.member? members "kind" with
  | none => simp only [hmember, Option.map_none, Option.bind_none]
  | some value =>
    cases value with
    | none => simp [hmember, Field.read, Field.default?]
    | some value => simp [hmember, Field.read, decode]

theorem variant?_object_congr {variant : String} {members members' : List (String × Json)}
    (hfields : form.fieldsOf? variant = some fields)
    (h : ∀ field ∈ fields, (Json.member? members field.name).bind field.read =
      (Json.member? members' field.name).bind field.read) :
    form.variant? (.object members') = form.variant? (.object members) := by
  cases form with
  | expression =>
    obtain ⟨fields, _, rfl⟩ := Option.map_eq_some_iff.mp hfields
    -- The tag is a field like the others, so it has not changed either.
    have hkind := h kindField List.mem_cons_self
    rw [variant?, variant?, tag?_object, tag?_object]
    exact congrArg (Option.bind · _) hkind.symm
  | statement =>
    obtain ⟨fields, _, rfl⟩ := Option.map_eq_some_iff.mp hfields
    have hkind := h kindField List.mem_cons_self
    rw [variant?, variant?, tag?_object, tag?_object]
    exact congrArg (Option.bind · _) hkind.symm
  | _ => rfl

theorem decode_object_congr {members members' : List (String × Json)}
    (hfields : form.fields? (.object members) = some fields)
    (h : ∀ field ∈ fields, (Json.member? members field.name).bind field.read =
      (Json.member? members' field.name).bind field.read) :
    form.decode (.object members') = form.decode (.object members) := by
  obtain ⟨variant, _, hvariant⟩ := Option.bind_eq_some_iff.mp hfields
  exact decode_congr hfields (variant?_object_congr hvariant h)
    (Json.record?_object_congr h).symm

theorem decode_reorder {members members' : List (String × Json)}
    (hfields : form.fields? (.object members) = some fields) (hperm : members.Perm members') :
    form.decode (.object members') = form.decode (.object members) :=
  decode_object_congr hfields fun field _ => by rw [Json.member?_perm hperm]

theorem decode_ignore {members : List (String × Json)}
    (hfields : form.fields? (.object members) = some fields) {name : String}
    (hname : name ∉ fields.map Field.name) (value : Json) :
    form.decode (.object ((name, value) :: members)) = form.decode (.object members) := by
  refine decode_object_congr hfields fun field hmem => ?_
  have hne : name ≠ field.name := by
    rintro rfl
    exact hname (List.mem_map_of_mem hmem)
  rw [Json.member?_cons_of_ne value members hne]

theorem decode_leaveOut {members : List (String × Json)}
    (hfields : form.fields? (.object members) = some fields) {field : Field}
    (hmem : field ∈ fields) {default : field.form.Value} (hdefault : field.default? = some default)
    {value : Json} (hvalue : field.form.decode value = some default)
    (habsent : ∀ member ∈ members, member.1 ≠ field.name) :
    form.decode (.object ((field.name, value) :: members)) = form.decode (.object members) := by
  refine decode_object_congr hfields fun other hother => ?_
  by_cases hname : field.name = other.name
  · cases field_eq_of_name hfields hmem hother hname
    have hnone : members.filter (fun member => decide (member.1 = field.name)) = [] := by
      simpa [List.filter_eq_nil_iff] using habsent
    have hleft : Json.member? members field.name = some none := by
      rw [Json.member?, hnone]
    have hgiven : Json.member? ((field.name, value) :: members) field.name = some (some value) := by
      rw [Json.member?, List.filter_cons_of_pos (by simp), hnone]
    rw [hleft, hgiven]
    exact hdefault.trans hvalue.symm
  · rw [Json.member?_cons_of_ne value members hname]

end Form

section Replacing

variable {form : Form} {fields : List Field} {field : Field} {value value' json json' : Json}

theorem Json.Replaces.tag? {rest : List Field}
    (h : Json.Replaces (Form.kindField :: rest) field value value' json json')
    (hnodup : ((Form.kindField :: rest).map Field.name).Nodup) (hscalar : field.form ≠ .scalar) :
    json'.tag? = json.tag? := by
  have hne : field ≠ Form.kindField := by
    rintro rfl
    exact hscalar rfl
  cases h with
  | member earlier later hmem =>
    have hname : field.name ≠ "kind" := fun hsame =>
      hne (List.inj_on_of_nodup_map hnodup hmem List.mem_cons_self hsame)
    rw [Form.tag?_object, Form.tag?_object, member?_append_cons_of_ne hname,
      member?_append_cons_of_ne hname]
  | item earlier later hplace =>
    cases earlier with
    | nil =>
      cases hplace
      exact absurd rfl hne
    | cons tag earlier => rfl

theorem Json.Replaces.variant? (h : Json.Replaces fields field value value' json json')
    (hfields : form.fields? json = some fields) (hscalar : field.form ≠ .scalar) :
    form.variant? json' = form.variant? json := by
  have hnodup := Form.fields?_nodup hfields
  obtain ⟨variant, _, hvariant⟩ := Option.bind_eq_some_iff.mp hfields
  cases form with
  | expression =>
    obtain ⟨rest, _, rfl⟩ := Option.map_eq_some_iff.mp hvariant
    exact congrArg (Option.bind · _) (h.tag? hnodup hscalar)
  | statement =>
    obtain ⟨rest, _, rfl⟩ := Option.map_eq_some_iff.mp hvariant
    exact congrArg (Option.bind · _) (h.tag? hnodup hscalar)
  | _ => rfl

theorem Json.Replaces.record? (h : Json.Replaces fields field value value' json json')
    (hnodup : (fields.map Field.name).Nodup)
    (hsame : field.form.decode value' = field.form.decode value) :
    json'.record? fields = json.record? fields := by
  cases h with
  | member earlier later hmem =>
    refine record?_object_congr fun other hother => ?_
    by_cases hname : field.name = other.name
    · cases List.inj_on_of_nodup_map hnodup hmem hother hname
      rcases member?_append_cons field.name earlier later with hsingle | hrepeated
      · rw [hsingle, hsingle]
        exact hsame
      · rw [hrepeated, hrepeated]
    · rw [member?_append_cons_of_ne hname, member?_append_cons_of_ne hname]
  | item earlier later hplace => exact record?_array_congr earlier hplace hsame

theorem Json.Replaces.record?_eq_none (h : Json.Replaces fields field value value' json json')
    (hfails : field.form.decode value' = none) : json'.record? fields = none := by
  cases h with
  | member earlier later hmem =>
    refine record?_object_eq_none hmem ?_
    rcases member?_append_cons field.name earlier later with hsingle | hrepeated
    · rw [hsingle]
      exact hfails
    · rw [hrepeated]
      rfl
  | item earlier later hplace => exact record?_array_eq_none earlier hplace hfails

end Replacing

section Items

variable {α : Type} {decode : Json → Option α} {value value' : Json}

theorem Json.listOf?_congr (earlier later : List Json) (h : decode value' = decode value) :
    listOf? decode (earlier ++ value' :: later) = listOf? decode (earlier ++ value :: later) := by
  induction earlier with
  | nil => rw [List.nil_append, List.nil_append, listOf?, listOf?, h]
  | cons item earlier ih => rw [List.cons_append, List.cons_append, listOf?, listOf?, ih]

theorem Json.listOf?_eq_none (earlier later : List Json) (h : decode value = none) :
    listOf? decode (earlier ++ value :: later) = none := by
  induction earlier with
  | nil => rw [List.nil_append, listOf?, h]
  | cons item earlier ih =>
    rw [List.cons_append, listOf?, ih]
    cases decode item <;> rfl

end Items

namespace Form

variable {form : Form} {json json' : Json}

theorem Change.form_ne_scalar (h : form.Change json json') : form ≠ .scalar := by
  rintro rfl
  cases h with
  | reorder hfields _ => cases hfields
  | ignore hfields _ _ => cases hfields
  | leaveOut hfields _ _ _ _ => cases hfields
  | inside hfields _ _ => cases hfields

theorem Change.decode_eq (h : form.Change json json') : form.decode json' = form.decode json := by
  induction h with
  | reorder hfields hperm => exact decode_reorder hfields hperm
  | ignore hfields hname value => exact decode_ignore hfields hname value
  | leaveOut hfields hmem hdefault hvalue habsent =>
    exact (decode_leaveOut hfields hmem hdefault hvalue habsent).symm
  | inside hfields hreplaces hchange ih =>
    exact decode_congr hfields (hreplaces.variant? hfields hchange.form_ne_scalar)
      (hreplaces.record? (fields?_nodup hfields) ih)
  | item earlier later _ ih => exact Json.listOf?_congr earlier later ih

theorem Nullifies.form_ne_scalar (h : form.Nullifies json json') : form ≠ .scalar := by
  rintro rfl
  cases h with
  | here hfields _ _ => cases hfields
  | inside hfields _ _ => cases hfields

theorem decode_null (h : form ≠ .scalar) : form.decode .null = none := by
  cases form with
  | scalar => exact absurd rfl h
  | _ => rfl

theorem Nullifies.decode_eq_none (h : form.Nullifies json json') : form.decode json' = none := by
  induction h with
  | @here form fields field value json json' hfields hreplaces hoptional =>
    have hscalar : field.form ≠ .scalar := by
      intro hscalar
      simp [Field.default?, hscalar, default?] at hoptional
    exact Form.decode_eq_none hfields (hreplaces.variant? hfields hscalar)
      (hreplaces.record?_eq_none (decode_null hscalar))
  | inside hfields hreplaces hnullifies ih =>
    exact Form.decode_eq_none hfields (hreplaces.variant? hfields hnullifies.form_ne_scalar)
      (hreplaces.record?_eq_none ih)
  | item earlier later _ ih => exact Json.listOf?_eq_none earlier later ih

end Form

theorem units_ignore_presentation :
    (∀ json json' : Json, Relation.EqvGen (Form.Change .unit) json json' →
        CallUnit.ofJson? json' = CallUnit.ofJson? json) ∧
      ∀ json json' : Json, Form.Nullifies .unit json json' → CallUnit.ofJson? json' = none := by
  constructor
  · intro json json' hchanges
    induction hchanges with
    | rel _ _ hchange => exact hchange.decode_eq
    | refl _ => rfl
    | symm _ _ _ ih => exact ih.symm
    | trans _ _ _ _ _ ihfirst ihsecond => exact ihsecond.trans ihfirst
  · intro json json' hnullifies
    exact hnullifies.decode_eq_none

namespace CallUnit

def greetingCall (argument : Json) : Json :=
  .object [("name", .string "greet"), ("arguments", .array [argument])]

def greetingStatement (argument : Json) : Json :=
  .object [("kind", .string "call"), ("call", greetingCall argument)]

def greetingJson (argument : Json) : Json :=
  .object [("function_name", .string "f"), ("statements", .array [greetingStatement argument])]

theorem greetingJson_inside {P : Form → Json → Json → Prop}
    (hinside : ∀ {form fields field value value' json json'}, form.fields? json = some fields →
      Json.Replaces fields field value value' json json' → P field.form value value' →
        P form json json')
    (hitem : ∀ {item value value'}, P item value value' →
      P (.list item) (.array [value]) (.array [value']))
    {argument argument' : Json} (h : P .expression argument argument') :
    P .unit (greetingJson argument) (greetingJson argument') := by
  have harguments : Json.Replaces Form.callFields ⟨"arguments", .list .expression, true⟩
      (.array [argument]) (.array [argument']) (greetingCall argument) (greetingCall argument') :=
    .member [("name", .string "greet")] [] (by decide)
  have hcall : P .call (greetingCall argument) (greetingCall argument') :=
    hinside rfl harguments (hitem h)
  have hnode : Json.Replaces [Form.kindField, ⟨"call", .call, false⟩] ⟨"call", .call, false⟩
      (greetingCall argument) (greetingCall argument') (greetingStatement argument)
      (greetingStatement argument') :=
    .member [("kind", .string "call")] [] (by decide)
  have hstatement : P .statement (greetingStatement argument) (greetingStatement argument') :=
    hinside rfl hnode hcall
  have hstatements : Json.Replaces Form.unitFields ⟨"statements", .list .statement, true⟩
      (.array [greetingStatement argument]) (.array [greetingStatement argument'])
      (greetingJson argument) (greetingJson argument') :=
    .member [("function_name", .string "f")] [] (by decide)
  exact hinside rfl hstatements (hitem hstatement)

def spannedArgument (span : Json) : Json :=
  .object [("span", span), ("kind", .string "variable"), ("name", .string "text")]

def bareArgument : Json :=
  .object [("name", .string "text"), ("comment", .null), ("kind", .string "variable")]

theorem greetingJson_change {argument argument' : Json}
    (h : Form.Change .expression argument argument') :
    Form.Change .unit (greetingJson argument) (greetingJson argument') :=
  greetingJson_inside .inside (.item [] []) h

theorem greetingJson_decoded :
    Relation.EqvGen (Form.Change .unit) (greetingJson (spannedArgument (Span.toJson {})))
        (greetingJson bareArgument) ∧
      CallUnit.ofJson? (greetingJson bareArgument) =
        CallUnit.ofJson? (greetingJson (spannedArgument (Span.toJson {}))) ∧
      CallUnit.ofJson? (greetingJson bareArgument) =
        some ⟨"f", [], [.call ⟨"greet", [.var "text" {}], {}⟩]⟩ ∧
      Form.Nullifies .unit (greetingJson (spannedArgument (Span.toJson {})))
        (greetingJson (spannedArgument .null)) ∧
      CallUnit.ofJson? (greetingJson (spannedArgument .null)) = none := by
  have hspan : (⟨"span", .span, true⟩ : Field) ∈
      [Form.kindField, ⟨"name", .scalar, false⟩, ⟨"span", .span, true⟩] := by decide
  have hleft : Form.Change .expression (spannedArgument (Span.toJson {}))
      (.object [("kind", .string "variable"), ("name", .string "text")]) :=
    .leaveOut rfl hspan rfl (Span.ofJson?_toJson {}) (by decide)
  have hignored : Form.Change .expression
      (.object [("kind", .string "variable"), ("name", .string "text")])
      (.object [("comment", .null), ("kind", .string "variable"), ("name", .string "text")]) :=
    .ignore rfl (by decide) .null
  have hreordered : Form.Change .expression
      (.object [("comment", .null), ("kind", .string "variable"), ("name", .string "text")])
      bareArgument :=
    .reorder rfl (List.perm_append_singleton _ [_, _])
  have hchanges : Relation.EqvGen (Form.Change .unit)
      (greetingJson (spannedArgument (Span.toJson {}))) (greetingJson bareArgument) :=
    .trans _ _ _ (.rel _ _ (greetingJson_change hleft))
      (.trans _ _ _ (.rel _ _ (greetingJson_change hignored))
        (.rel _ _ (greetingJson_change hreordered)))
  have hreplaces : Json.Replaces
      [Form.kindField, ⟨"name", .scalar, false⟩, ⟨"span", .span, true⟩] ⟨"span", .span, true⟩
      (Span.toJson {}) .null (spannedArgument (Span.toJson {})) (spannedArgument .null) :=
    .member [] [("kind", .string "variable"), ("name", .string "text")] hspan
  have hnull : Form.Nullifies .unit (greetingJson (spannedArgument (Span.toJson {})))
      (greetingJson (spannedArgument .null)) :=
    greetingJson_inside .inside (.item [] []) (.here rfl hreplaces rfl)
  exact ⟨hchanges, units_ignore_presentation.1 _ _ hchanges, by rfl, hnull,
    units_ignore_presentation.2 _ _ hnull⟩

end CallUnit

end BoxedCalls
