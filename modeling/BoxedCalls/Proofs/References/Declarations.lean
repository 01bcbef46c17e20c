import BoxedCalls.Proofs.References.Lifetimes
import BoxedCalls.Proofs.Text.Lines

namespace BoxedCalls

/-- The word before the last character of a line. -/
def declaredName (line : String) : String :=
  .ofList ((line.toList.reverse.drop 1).takeWhile wordChar).reverse

theorem declaredName_eq {name : String} (hname : ∀ char ∈ name.toList, wordChar char = true)
    {before : String} {last : Char} (hlast : before.toList.getLast? = some last)
    (hgap : wordChar last = false) (closing : Char) :
    declaredName (before ++ name ++ .singleton closing) = name := by
  obtain ⟨front, hfront⟩ := List.getLast?_eq_some_iff.mp hlast
  have hchars : ((before ++ name ++ .singleton closing).toList.reverse.drop 1) =
      name.toList.reverse ++ last :: front.reverse := by
    simp [String.toList_append, hfront]
  have hword : ∀ char ∈ name.toList.reverse, wordChar char = true := by
    intro char hmem
    exact hname char (List.mem_reverse.mp hmem)
  rw [declaredName, hchars, List.takeWhile_append_of_pos hword, List.takeWhile_cons, hgap]
  simp

theorem declaredName_eq_empty (before : String) {last : Char} (hgap : wordChar last = false)
    (closing : Char) : declaredName (before ++ .singleton last ++ .singleton closing) = "" := by
  have hlast : (before ++ .singleton last).toList.getLast? = some last := by
    simp
  have hnothing : declaredName (before ++ .singleton last ++ "" ++ .singleton closing) = "" :=
    declaredName_eq (by simp) hlast hgap closing
  rwa [String.append_empty] at hnothing

theorem Variable.declaration_eq (v : Variable) :
    ∃ before last, Unbroken before ∧ before.toList.getLast? = some last ∧
      wordChar last = false ∧ v.declaration = before ++ v.name ++ ";" := by
  obtain ⟨name, storage, type⟩ := v
  have htyped : ∀ type : VariableType, (type.cType ++ " ").toList.getLast? = some ' ' := by
    simp [String.toList_append]
  have hunbroken : ∀ type : VariableType, Unbroken (type.cType ++ " ") := by
    intro type
    cases type <;> decide
  cases storage with
  | stackTemporary => exact ⟨"zval ", ' ', by decide, rfl, rfl, rfl⟩
  | heapTemporary | named =>
    cases type with
    | boxed | array => exact ⟨"zval *", '*', by decide, rfl, rfl, rfl⟩
    | _ => exact ⟨_, ' ', hunbroken _, htyped _, rfl, rfl⟩

theorem Variable.declaredName_line {v : Variable} (h : isIdentifier v.name = true) :
    declaredName ("\t" ++ v.declaration) = v.name := by
  obtain ⟨before, last, _, hlast, hgap, hdeclaration⟩ := v.declaration_eq
  have htabbed : ("\t" ++ before).toList.getLast? = some last := by
    rw [String.toList_append, List.getLast?_append, hlast, Option.some_or]
  rw [hdeclaration, ← String.append_assoc, ← String.append_assoc]
  exact declaredName_eq (wordChar_of_isIdentifier h) htabbed hgap ';'

theorem Variable.unbroken_line {v : Variable} (h : isIdentifier v.name = true) :
    Unbroken ("\t" ++ v.declaration) := by
  obtain ⟨before, _, hbefore, _, _, hdeclaration⟩ := v.declaration_eq
  rw [hdeclaration]
  exact .append (by decide)
    ((hbefore.append (.of_isIdentifier (by decide) h)).append (by decide))

theorem Instruction.exists_line_eq (instruction : Instruction) :
    ∃ routine arguments, instruction.render = line routine arguments := by
  cases instruction <;> exact ⟨_, _, rfl⟩

theorem Instruction.declaredName_line (instruction : Instruction) :
    declaredName ("\t" ++ instruction.render) = "" := by
  have hclosing : ");" = .singleton ')' ++ .singleton ';' := by decide
  obtain ⟨routine, arguments, hrender⟩ := instruction.exists_line_eq
  rw [hrender, line, hclosing, ← String.append_assoc, ← String.append_assoc]
  exact declaredName_eq_empty _ (by decide) ';'

def VariableType.scalars : List VariableType :=
  [int, uint, long, ulong, double, bool, string]

theorem Role.boxed_or_scalar (role : Role) :
    role.types = [.boxed] ∨ role.types ⊆ VariableType.scalars ∧ role.storages = [.named] := by
  cases role <;> decide

theorem Variable.declaration_scalar {name : String} {type : VariableType}
    (h : type ∈ VariableType.scalars) :
    declaration ⟨name, .named, type⟩ = type.cType ++ " " ++ name ++ ";" := by
  cases type <;> first | rfl | exact absurd h (by decide)

inductive Variable.ReferredBy (v : Variable) : Operand → Prop where
  | address (hstorage : v.storage = .stackTemporary) (htype : v.type = .boxed)
      (hdeclaration : v.declaration = "zval " ++ v.name ++ ";") : v.ReferredBy (.addressOf v.name)
  | pointer (hstorage : v.storage ≠ .stackTemporary) (htype : v.type = .boxed)
      (hdeclaration : v.declaration = "zval *" ++ v.name ++ ";") : v.ReferredBy (.var v.name)
  | scalar (hstorage : v.storage = .named)
      (htype : v.type ∈ VariableType.scalars)
      (hdeclaration : v.declaration = v.type.cType ++ " " ++ v.name ++ ";") :
      v.ReferredBy (.var v.name)

theorem Reference.Fits.referredBy {reference : Reference} {v : Variable} (h : reference.Fits v) :
    v.ReferredBy reference.operand := by
  obtain ⟨name, storage, type⟩ := v
  obtain ⟨hoperand, htype, hstorage⟩ := h
  rw [hoperand]
  rcases reference.role.boxed_or_scalar with hboxed | ⟨hscalars, hnamed⟩
  · rw [hboxed, List.mem_singleton] at htype
    cases htype
    cases storage with
    | stackTemporary => exact .address rfl rfl rfl
    | heapTemporary | named => exact .pointer nofun rfl rfl
  · rw [hnamed, List.mem_singleton] at hstorage
    cases hstorage
    exact .scalar rfl (hscalars htype) (Variable.declaration_scalar (hscalars htype))

section Units

variable {host : HostFunctions} {unit : CallUnit} {compiled : CompiledFunction}

theorem SymbolTable.Extends.isIdentifier {table : SymbolTable}
    (h : (declareAll unit.declarations).symbols.Extends table)
    (hidentifiers : ∀ declaration ∈ unit.declarations, isIdentifier declaration.name = true)
    {name : String} {v : Variable} (hfind : table.find? name = some v) :
    BoxedCalls.isIdentifier name = true := by
  rcases h.added hfind with hkept | ⟨_, _, _, number, rfl⟩
  · have hdeclared : unit.declares name := by
      by_contra hundeclared
      rw [CallUnit.find?_declareAll_of_not_declares hundeclared] at hkept
      cases hkept
    obtain ⟨declaration, hmem, rfl⟩ := List.mem_map.mp hdeclared
    exact hidentifiers declaration hmem
  · exact isIdentifier_temporaryName number

theorem Variable.filter_name_eq {entries : List Variable}
    (hnodup : (entries.map Variable.name).Nodup) {v : Variable} (hmem : v ∈ entries) :
    entries.filter (fun other => other.name = v.name) = [v] := by
  obtain ⟨first, last, rfl⟩ := List.append_of_mem hmem
  rw [List.map_append, List.map_cons, List.nodup_middle, List.nodup_cons, List.mem_append,
    not_or] at hnodup
  have hothers : ∀ {others : List Variable}, v.name ∉ others.map Variable.name →
      others.filter (fun other => other.name = v.name) = [] := by
    intro others hnot
    refine List.filter_eq_nil_iff.mpr fun other hother hsame => ?_
    exact hnot (List.mem_map.mpr ⟨other, hother, of_decide_eq_true hsame⟩)
  simp [hothers hnodup.1.1, hothers hnodup.1.2]

namespace CompiledFunction

theorem textLines_code_eq
    (hidentifiers : ∀ v ∈ compiled.context.symbols.entries, isIdentifier v.name = true) :
    textLines compiled.code =
      textLines ("void " ++ compiled.functionName ++ "(void) \x7b") ++
        compiled.context.symbols.entries.map (fun v => "\t" ++ v.declaration) ++
        (if compiled.context.symbols.entries.isEmpty || compiled.context.instructions.isEmpty
          then [] else [""]) ++
        compiled.context.instructions.flatMap (fun instruction =>
          textLines ("\t" ++ instruction.render)) ++ ["\x7d", ""] := by
  have hdeclarations : compiled.declarationLines.flatMap (fun line => textLines ("\t" ++ line)) =
      compiled.context.symbols.entries.map (fun v => "\t" ++ v.declaration) := by
    rw [declarationLines, List.flatMap_map, List.map_eq_flatMap]
    refine List.flatMap_congr fun v hmem => textLines_eq_singleton ?_
    exact v.unbroken_line (hidentifiers v hmem) '\n' List.mem_cons_self
  rw [textLines_code, hdeclarations]
  simp [declarationLines, Context.lines, List.flatMap_map]

theorem filter_declarations
    (hconsistent : compiled.context.symbols.Consistent)
    (hidentifiers : ∀ v ∈ compiled.context.symbols.entries, isIdentifier v.name = true)
    {v : Variable} (hmem : v ∈ compiled.context.symbols.entries) :
    (compiled.context.symbols.entries.map fun other => "\t" ++ other.declaration).filter
      (fun line => declaredName line = v.name) = ["\t" ++ v.declaration] := by
  have hnames : compiled.context.symbols.entries.filter
      ((fun line => decide (declaredName line = v.name)) ∘ fun other => "\t" ++ other.declaration) =
      compiled.context.symbols.entries.filter (fun other => other.name = v.name) := by
    refine List.filter_congr fun other hother => ?_
    rw [Function.comp_apply, other.declaredName_line (hidentifiers other hother)]
  rw [List.filter_map, hnames, Variable.filter_name_eq hconsistent.nodup_names hmem,
    List.map_singleton]

theorem declaredName_of_mem_header {functionName line : String}
    (hname : '\n' ∉ functionName.toList)
    (hline : line ∈ textLines ("void " ++ functionName ++ "(void) \x7b")) :
    declaredName line = "" := by
  have hopening : "(void) \x7b" = "(void)" ++ .singleton ' ' ++ .singleton '\x7b' := by decide
  have hunbroken : '\n' ∉ ("void " ++ functionName ++ "(void) \x7b").toList := by
    simp [hname]
  rw [textLines_eq_singleton hunbroken, List.mem_singleton] at hline
  rw [hline, hopening, ← String.append_assoc, ← String.append_assoc]
  exact declaredName_eq_empty _ (by decide) '\x7b'

theorem declaredName_of_mem_instructions {instructions : List Instruction} {line : String}
    (hlines : ∀ instruction ∈ instructions, '\n' ∉ instruction.render.toList)
    (hline : line ∈ instructions.flatMap fun instruction =>
      textLines ("\t" ++ instruction.render)) : declaredName line = "" := by
  obtain ⟨instruction, hinstruction, hmember⟩ := List.mem_flatMap.mp hline
  have hunbroken : '\n' ∉ ("\t" ++ instruction.render).toList := by
    simp [hlines instruction hinstruction]
  rw [textLines_eq_singleton hunbroken, List.mem_singleton] at hmember
  rw [hmember]
  exact instruction.declaredName_line

theorem filter_textLines_code
    (hconsistent : compiled.context.symbols.Consistent)
    (hidentifiers : ∀ v ∈ compiled.context.symbols.entries, isIdentifier v.name = true)
    (hname : '\n' ∉ compiled.functionName.toList)
    (hlines : ∀ instruction ∈ compiled.context.instructions, '\n' ∉ instruction.render.toList)
    {v : Variable} (hmem : v ∈ compiled.context.symbols.entries) :
    (textLines compiled.code).filter (fun line => declaredName line = v.name) =
      ["\t" ++ v.declaration] := by
  have hnamed : v.name ≠ "" := by
    intro hempty
    have hidentifier := hidentifiers v hmem
    rw [hempty] at hidentifier
    exact absurd hidentifier (by decide)
  have hskipped : ∀ {lines : List String}, (∀ line ∈ lines, declaredName line = "") →
      lines.filter (fun line => declaredName line = v.name) = [] := by
    intro lines hnothing
    refine List.filter_eq_nil_iff.mpr fun line hline hsame => hnamed ?_
    rw [← of_decide_eq_true hsame, hnothing line hline]
  have hgap : ∀ line ∈ if compiled.context.symbols.entries.isEmpty ||
      compiled.context.instructions.isEmpty then [] else [""], declaredName line = "" := by
    split
    · exact nofun
    · exact List.forall_mem_singleton.mpr (by decide)
  have hclosing : ∀ line ∈ ["\x7d", ""], declaredName line = "" := by decide
  rw [textLines_code_eq hidentifiers]
  simp only [List.filter_append, filter_declarations hconsistent hidentifiers hmem,
    hskipped fun _ => declaredName_of_mem_header hname,
    hskipped fun _ => declaredName_of_mem_instructions hlines, hskipped hgap, hskipped hclosing,
    List.append_nil, List.nil_append]

end CompiledFunction

theorem compileUnit_functionName {compiler : Compiler}
    (h : (compileUnit unit compiler).1 = .ok compiled) :
    compiled.functionName = unit.functionName := by
  unfold compileUnit at h
  split at h
  · cases h
    rfl
  · cases h

theorem operands_match_declarations
    (hidentifiers : ∀ declaration ∈ unit.declarations, isIdentifier declaration.name = true)
    (hdeclared : ∀ name, unit.mentions name = true → unit.declares name)
    (h : (compileUnit unit (.new host .builtin)).1 = .ok compiled) :
    textLines compiled.code =
        textLines ("void " ++ unit.functionName ++ "(void) \x7b") ++
          compiled.context.symbols.entries.map (fun v => "\t" ++ v.declaration) ++
          (if compiled.context.symbols.entries.isEmpty || compiled.context.instructions.isEmpty
            then [] else [""]) ++
          compiled.context.instructions.flatMap (fun instruction =>
            textLines ("\t" ++ instruction.render)) ++ ["\x7d", ""] ∧
      (compiled.context.symbols.entries.map Variable.name).Nodup ∧
      (∀ v ∈ compiled.context.symbols.entries,
        (compiled.context.symbols.entries.map fun other => "\t" ++ other.declaration).filter
          (fun line => declaredName line = v.name) = ["\t" ++ v.declaration]) ∧
      ('\n' ∉ unit.functionName.toList →
        (∀ instruction ∈ compiled.context.instructions, '\n' ∉ instruction.render.toList) →
        ∀ v ∈ compiled.context.symbols.entries,
          (textLines compiled.code).filter (fun line => declaredName line = v.name) =
            ["\t" ++ v.declaration]) ∧
      ∀ instruction ∈ compiled.context.instructions, ∀ reference ∈ instruction.references,
        (∃ v ∈ compiled.context.symbols.entries,
          reference.Fits v ∧ v.ReferredBy reference.operand) ∨ reference.IsConstant := by
  have hcontracts := Compiler.usesContracts_new host (.inl rfl)
  have hgrows := (compileUnit_runs hcontracts.followsCalls h).grows
  have hentries : ∀ v ∈ compiled.context.symbols.entries, isIdentifier v.name = true := by
    intro v hmem
    exact hgrows.symbols.isIdentifier hidentifiers
      (hgrows.consistent.find?_eq_some_iff.mpr ⟨hmem, rfl⟩)
  rw [← compileUnit_functionName h]
  refine ⟨CompiledFunction.textLines_code_eq hentries, hgrows.consistent.nodup_names, ?_, ?_, ?_⟩
  · intro v hmem
    exact CompiledFunction.filter_declarations hgrows.consistent hentries hmem
  · intro hname hlines v hmem
    exact CompiledFunction.filter_textLines_code hgrows.consistent hentries hname hlines hmem
  · intro instruction hmem reference hreference
    rcases (compileUnit_accounts hcontracts hdeclared h).fits_of_mem hgrows.consistent hmem
      hreference with ⟨v, hv, hfits⟩ | hconstant
    · exact .inl ⟨v, hv, hfits, hfits.referredBy⟩
    · exact .inr hconstant

end Units

def CallUnit.prefixTest : CallUnit where
  functionName := "f"
  declarations := [⟨"text", .string⟩, ⟨"code", .int⟩, ⟨"found", .boxed⟩]
  statements := [
    .assign "found" ⟨"starts_with", [.var "text" {}, .var "code" {}], {}⟩]

def prefixTestEntries : List Variable := [
  ⟨"text", .named, .string⟩, ⟨"code", .named, .int⟩, ⟨"found", .named, .boxed⟩,
  ⟨"_0", .stackTemporary, .boxed⟩, ⟨"_1", .stackTemporary, .boxed⟩]

def prefixTestCode : List Instruction := [
  .storeStringWithLength (.addressOf "_0") (.var "text") false,
  .storeLong (.addressOf "_1") (.var "code"),
  .reinit (.var "found"),
  .storeBool (.var "found")
    (.predicate "zephir_start_with" [.addressOf "_0", .addressOf "_1", .verbatim "NULL"])]

theorem prefixTest_operands_match :
    ∃ compiled, (compileUnit .prefixTest (.new .standard .builtin)).1 = .ok compiled ∧
      compiled.context.symbols.entries = prefixTestEntries ∧
      compiled.context.instructions = prefixTestCode ∧
      textLines compiled.code = [
        "void f(void) \x7b",
        "\tzephir_str text;",
        "\tint code;",
        "\tzval *found;",
        "\tzval _0;",
        "\tzval _1;",
        "",
        "\tZVAL_STRINGL(&_0, text->str, text->len, 0);",
        "\tZVAL_LONG(&_1, code);",
        "\tZEPHIR_INIT_NVAR(found);",
        "\tZVAL_BOOL(found, zephir_start_with(&_0, &_1, NULL));",
        "\x7d",
        ""] ∧
      (prefixTestEntries.map Variable.name).Nodup ∧
      (∀ v ∈ prefixTestEntries,
        (textLines compiled.code).filter (fun line => declaredName line = v.name) =
          ["\t" ++ v.declaration]) ∧
      ∀ instruction ∈ prefixTestCode, ∀ reference ∈ instruction.references,
        (∃ v ∈ prefixTestEntries, reference.Fits v ∧ v.ReferredBy reference.operand) ∨
          reference.IsConstant := by
  have hdeclared : ∀ name, CallUnit.prefixTest.mentions name = true →
      CallUnit.prefixTest.declares name := by
    intro name hmentions
    have hname : "found" = name ∨ "text" = name ∨ "code" = name := by
      simpa [CallUnit.mentions, CallUnit.prefixTest, Statement.mentions, Call.argumentsRead,
        Expression.anyReads, Expression.reads] using hmentions
    rcases hname with rfl | rfl | rfl <;> decide
  have hcode : acceptedCode .prefixTest (.new .standard .builtin) = some prefixTestCode := by
    decide +kernel
  obtain ⟨compiled, hcompiled, hinstructions⟩ := acceptedCode_eq_some_iff.mp hcode
  have hentries : compiled.context.symbols.entries = prefixTestEntries := by
    have hcomputed : (compileUnit .prefixTest (.new .standard .builtin)).1.toOption.map
        (·.context.symbols.entries) = some prefixTestEntries := by
      decide +kernel
    rw [hcompiled] at hcomputed
    exact Option.some.inj hcomputed
  have hunbroken : ∀ instruction ∈ prefixTestCode, '\n' ∉ instruction.render.toList := by
    decide +kernel
  obtain ⟨hlines, hnames, _, hdeclarations, hmatch⟩ :=
    operands_match_declarations (by decide +kernel) hdeclared hcompiled
  rw [hentries, hinstructions] at hlines hmatch
  rw [hentries] at hnames
  rw [hentries, hinstructions] at hdeclarations
  refine ⟨compiled, hcompiled, hentries, hinstructions, ?_, hnames,
    hdeclarations (by decide) hunbroken, hmatch⟩
  rw [hlines]
  decide +kernel

end BoxedCalls
