import BoxedCalls.Encoding.Expression

namespace BoxedCalls

namespace Json

variable {other : String} (value : Json) (members : List (String × Json))

theorem member?_cons_of_ne {name : String} (h : other ≠ name) :
    member? ((other, value) :: members) name = member? members name := by
  simp [member?, h]

theorem fields?_cons_of_notMem {names : List String} (h : other ∉ names) :
    fields? names (.object ((other, value) :: members)) = fields? names (.object members) := by
  simp only [fields?]
  induction names with
  | nil => rfl
  | cons name names ih =>
    obtain ⟨hname, hnames⟩ := List.ne_and_not_mem_of_not_mem_cons h
    rw [membersNamed, membersNamed, member?_cons_of_ne value members hname, ih hnames]

end Json

namespace Expression

theorem spanField?_toJson (span : Span) : spanField? (some span.toJson) = some span :=
  span.ofJson?_toJson

theorem bodyOf?_cons_kind (tag : String) (value : Json) (members : List (String × Json))
    (arguments : Option (List Expression)) :
    bodyOf? tag (.object (("kind", value) :: members)) arguments =
      bodyOf? tag (.object members) arguments := by
  have hfields : ∀ names, "kind" ∉ names →
      Json.fields? names (.object (("kind", value) :: members)) =
        Json.fields? names (.object members) :=
    fun _ h => Json.fields?_cons_of_notMem value members h
  unfold bodyOf? literalOf? nullOf? variableOf? callOf?
  rw [hfields ["value", "span"] (by decide), hfields ["span"] (by decide),
    hfields ["name", "span"] (by decide), hfields ["name", "arguments", "span"] (by decide)]

theorem ofJson?_tagged (inner : Bool) {tag : String} (htag : tag ∈ tags)
    {members : List (String × Json)} (hkind : ∀ member ∈ members, member.1 ≠ "kind") :
    ofJson? inner (.object (("kind", .string tag) :: members)) =
      bodyOf? tag (.object members) (argumentsMember? true members) := by
  have habsent : members.filter (fun member => member.1 = "kind") = [] := by
    simpa [List.filter_eq_nil_iff] using hkind
  have hmember : Json.member? (("kind", .string tag) :: members) "kind" =
      some (some (.string tag)) := by
    simp [Json.member?, habsent]
  have htagged : Json.tagIn? tags inner (.string tag) = some tag := if_pos htag
  have harguments : argumentsMember? true (("kind", .string tag) :: members) =
      argumentsMember? true members := rfl
  rw [ofJson?, hmember, harguments]
  simp only [htagged, Option.bind_some, bodyOf?_cons_kind]

theorem bodyOf?_literal (value : Literal) (span : Span) (h : value.isFinite = true)
    (arguments : Option (List Expression)) :
    bodyOf? value.tag (.object (value.members ++ [("span", span.toJson)])) arguments =
      some (.literal value span) := by
  cases value <;>
    simp_all [bodyOf?, Literal.tag, Literal.members, Literal.isFinite, literalOf?, nullOf?,
      Json.fields?, Json.membersNamed, Json.member?, Json.required?, spanField?_toJson,
      Json.int64?_toInt, Json.uint64?_toNat, Json.double?, Json.bool?, Json.string?]

theorem variableOf?_members (name : String) (span : Span) :
    variableOf? (.object [("name", .string name), ("span", span.toJson)]) =
      some (.var name span) := by
  simp [variableOf?, Json.fields?, Json.membersNamed, Json.member?, Json.required?, Json.string?,
    spanField?_toJson]

theorem callOf?_members (function : String) (encoded : Json) (arguments : List Expression)
    (span : Span) :
    callOf? (.object [("name", .string function), ("arguments", encoded), ("span", span.toJson)])
      (some arguments) = some ⟨function, arguments, span⟩ := by
  simp [callOf?, Json.fields?, Json.membersNamed, Json.member?, Json.required?, Json.string?,
    spanField?_toJson]

mutual

theorem ofJson?_toJson (inner : Bool) (expression : Expression) (h : expression.isFinite = true) :
    ofJson? inner expression.toJson = some expression := by
  cases expression with
  | literal value span =>
    have htag : value.tag ∈ tags := by cases value <;> simp [Literal.tag, tags]
    have hkind : ∀ member ∈ value.members ++ [("span", span.toJson)], member.1 ≠ "kind" := by
      cases value <;> simp [Literal.members]
    rw [toJson, List.cons_append, ofJson?_tagged inner htag hkind]
    exact bodyOf?_literal value span h _
  | var name span =>
    rw [toJson, ofJson?_tagged inner (by decide) (by simp)]
    exact variableOf?_members name span
  | call function arguments span =>
    have harguments := listOfJson?_listToJson true arguments h
    rw [toJson, ofJson?_tagged inner (by decide) (by simp)]
    change (callOf? _ (listOfJson? true (listToJson arguments))).map ofCall = _
    rw [harguments, callOf?_members]
    rfl

theorem listOfJson?_listToJson (inner : Bool) (arguments : List Expression)
    (h : allFinite arguments = true) :
    listOfJson? inner (listToJson arguments) = some arguments := by
  cases arguments with
  | nil => rfl
  | cons argument rest =>
    obtain ⟨hfirst, hrest⟩ := Bool.and_eq_true_iff.mp h
    rw [listToJson, listOfJson?, ofJson?_toJson inner argument hfirst,
      listOfJson?_listToJson inner rest hrest]

end

end Expression

namespace Call

def isFinite (call : Call) : Bool :=
  Expression.allFinite call.arguments

theorem ofJson?_toJson (inner : Bool) (call : Call) (h : call.isFinite = true) :
    ofJson? inner call.toJson = some call := by
  have harguments := Expression.listOfJson?_listToJson inner call.arguments h
  rw [toJson, ofJson?]
  change Expression.callOf? _
    (Expression.listOfJson? inner (Expression.listToJson call.arguments)) = _
  rw [harguments]
  exact Expression.callOf?_members call.function _ call.arguments call.span

end Call

theorem decoding_undoes_encoding (inner : Bool) :
    (∀ span : Span, Span.ofJson? span.toJson = some span) ∧
    (∀ expression : Expression, expression.isFinite = true →
      Expression.ofJson? inner expression.toJson = some expression) ∧
    (∀ call : Call, call.isFinite = true → Call.ofJson? inner call.toJson = some call) ∧
    (∀ json span, Span.ofJson? json = some span →
      Span.ofJson? span.toJson = Span.ofJson? json) ∧
    (∀ outer json expression, Expression.ofJson? outer json = some expression →
      expression.isFinite = true →
        Expression.ofJson? inner expression.toJson = Expression.ofJson? outer json) ∧
    (∀ outer json call, Call.ofJson? outer json = some call → call.isFinite = true →
      Call.ofJson? inner call.toJson = Call.ofJson? outer json) := by
  refine ⟨Span.ofJson?_toJson, Expression.ofJson?_toJson inner, Call.ofJson?_toJson inner,
    fun json span haccepted => ?_, fun outer json expression haccepted hfinite => ?_,
    fun outer json call haccepted hfinite => ?_⟩
  · rw [haccepted, Span.ofJson?_toJson]
  · rw [haccepted, Expression.ofJson?_toJson inner expression hfinite]
  · rw [haccepted, Call.ofJson?_toJson inner call hfinite]

def Expression.extremes : Expression :=
  .call "Max"
    [.literal (.int Int64.minValue) {}, .literal (.uint (-1)) ⟨0, -1, 1, -1⟩,
      .literal (.long Int64.maxValue) {}, .literal (.ulong 0) {},
      .call "kind" [.var "arguments" {}, .literal .null {}, .literal (.string "\"") {}] {}] {}

def Call.bareJson : Json :=
  .object [("name", .string "now")]

theorem extremes_and_bareJson_decoded :
    Expression.ofJson? false Expression.extremes.toJson = some Expression.extremes ∧
    Call.ofJson? false (Call.toJson ⟨"now", [], {}⟩) = Call.ofJson? true Call.bareJson := by
  obtain ⟨-, hexpression, -, -, -, hcall⟩ := decoding_undoes_encoding false
  exact ⟨hexpression Expression.extremes rfl, hcall true Call.bareJson ⟨"now", [], {}⟩ rfl rfl⟩

end BoxedCalls
