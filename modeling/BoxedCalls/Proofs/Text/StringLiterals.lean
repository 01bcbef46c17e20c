import BoxedCalls.Proofs.Compile.Statements
import BoxedCalls.Proofs.Invocations.CallNames
import BoxedCalls.Proofs.Text.Quotation

namespace BoxedCalls

def Literal.string? : Literal → Option String
  | string value => some value
  | _ => none

mutual

def Expression.stringLiterals : Expression → List String
  | .literal value _ => value.string?.toList
  | .var _ _ => []
  | .call _ arguments _ => allStringLiterals arguments

def Expression.allStringLiterals : List Expression → List String
  | [] => []
  | argument :: rest => argument.stringLiterals ++ allStringLiterals rest

end

def Statement.stringLiterals : Statement → List String
  | .call c => Expression.allStringLiterals c.arguments
  | .assign _ c => Expression.allStringLiterals c.arguments

def CallUnit.stringLiterals (unit : CallUnit) : List String :=
  unit.statements.flatMap Statement.stringLiterals

theorem Unbroken.escape (value : String) : Unbroken (Text.escape value) := by
  have htext := Text.isLiteralText_escapeChars value.toList
  intro c hc
  rw [Text.escape, String.toList_ofList]
  exact htext.unbroken c (List.mem_append_left ['\t'] hc)

structure Instruction.StoresLiteral (value : String) (instruction : Instruction) : Prop where
  unbroken : Unbroken instruction.render
  quoted : ∃ opening closing, '"' ∉ opening ∧ '"' ∉ closing ∧
    instruction.render.toList = opening ++ '"' :: (Text.escape value).toList ++ '"' :: closing
  denotes : literals? instruction.render = some [utf8 value.toList]

theorem Instruction.render_storeString (target : Operand) (value : String) (duplicate : Bool) :
    (storeString target (.quoted value) duplicate).render.toList =
      ("ZVAL_STRING(" ++ target.render ++ ", ").toList ++ '"' :: (Text.escape value).toList ++
        '"' :: (", " ++ copyFlag duplicate ++ ");").toList := by
  simp [render, line, Code.render, String.toList_append]

namespace Instruction.StoresLiteral

theorem of_target {target : Operand} (hquoteless : Quoteless target.render)
    (hunbroken : Unbroken target.render) (value : String) (duplicate : Bool) :
    (storeString target (.quoted value) duplicate).StoresLiteral value := by
  have hopening : Quoteless ("ZVAL_STRING(" ++ target.render ++ ", ") :=
    (Avoids.append (by decide) hquoteless).append (by decide)
  have hclosing : Quoteless (", " ++ copyFlag duplicate ++ ");") := by
    cases duplicate <;> decide
  have hline := render_storeString target value duplicate
  refine ⟨?_, ⟨_, _, hopening.quote, hclosing.quote, hline⟩, ?_⟩
  · have hliteral : Unbroken ("\"" ++ Text.escape value ++ "\"") :=
      (Avoids.append (by decide) (Unbroken.escape value)).append (by decide)
    have hflag : Unbroken (copyFlag duplicate) := by
      cases duplicate <;> decide
    have harguments : ∀ argument ∈
        [target.render, "\"" ++ Text.escape value ++ "\"", copyFlag duplicate],
        Unbroken argument := by
      simp only [List.forall_mem_cons]
      exact ⟨hunbroken, hliteral, hflag, nofun⟩
    exact (Avoids.append (by decide) (.intercalate (by decide) harguments)).append (by decide)
  · have hread : LiteralReader.read { mode := .text } (Text.escape value).toList =
        some { mode := .text, current := utf8 value.toList } := by
      rw [Text.escape, String.toList_ofList]
      exact LiteralReader.read_escapeChars rfl value.toList
    have hdenotes := literals?_of_read hopening.quote hclosing.quote hread
    rwa [← hline, String.ofList_toList] at hdenotes

theorem of_allocate (table : SymbolTable) (storage : Storage) (value : String) (duplicate : Bool) :
    (storeString (table.allocate storage).1.handle (.quoted value) duplicate).StoresLiteral
      value := by
  obtain ⟨number, hname⟩ := table.allocate_name storage
  refine of_target (.operand (by decide) (Operand.names_handle ?_))
    (.operand (by decide) (Operand.names_handle ?_)) value duplicate
  · rw [hname]
    exact .temporaryName (by decide) number
  · rw [hname]
    exact .temporaryName (by decide) number

end Instruction.StoresLiteral

def Instruction.isStringStore : Instruction → Bool
  | storeString _ _ _ => true
  | _ => false

abbrev StoresLiterals (values : List String) (before after : Context) : Prop :=
  Context.Emits Instruction.isStringStore (fun value instruction => instruction.StoresLiteral value)
    values before after

section Steps

open Instruction

variable {ctx ctx' : Context}

theorem Variable.stringStores_initialization (v : Variable) :
    v.initialization.filter isStringStore = [] := by
  unfold Variable.initialization
  split <;> rfl

theorem Destination.stringStores_opening (destination : Destination) :
    destination.opening.filter isStringStore = [] := by
  unfold Destination.opening
  split <;> rfl

theorem Routine.isStringStore_instruction (routine : Routine) (function : String)
    (arguments : List Operand) (destination : Option Operand) :
    (routine.instruction function arguments destination).isStringStore = false := by
  cases routine <;> rfl

theorem isStringStore_storeScalar (target : Operand) {value : Compiled}
    (hkind : value.kind ≠ .string) : (storeScalar target value).isStringStore = false := by
  obtain ⟨kind, code, span⟩ := value
  cases kind <;> first | rfl | exact absurd rfl hkind

theorem VariableType.isStringStore_boxing? {type : VariableType} {name : String} {boxing : Boxing}
    (h : type.boxing? name = some boxing) (mode : ArgumentMode) (target : Operand) :
    (boxing.store mode target).isStringStore = false := by
  cases type <;> cases h <;> rfl

theorem Context.stringStores_allocate (ctx : Context) (storage : Storage) :
    (ctx.allocate storage).2.instructions.filter isStringStore =
      ctx.instructions.filter isStringStore := by
  simp [Variable.stringStores_initialization]

theorem Context.stringStores_deliver (ctx : Context) (routine : Routine) (function : String)
    (arguments : List Operand) (destination : Destination) :
    (ctx.deliver routine function arguments destination).instructions.filter isStringStore =
      ctx.instructions.filter isStringStore := by
  simp [Destination.stringStores_opening, Routine.isStringStore_instruction]

theorem Context.stringStores_assign (ctx : Context) (v : Variable) (isRead : Bool)
    {value : Compiled} (hkind : value.kind ≠ .string) :
    (ctx.assign v isRead value).instructions.filter isStringStore =
      ctx.instructions.filter isStringStore := by
  have hscalar := fun target => isStringStore_storeScalar target hkind
  have hcopy : ∀ target source, (copyOnWrite target source).isStringStore = false :=
    fun _ _ => rfl
  have hreinit : ∀ target, (reinit target).isStringStore = false := fun _ => rfl
  unfold Context.assign
  split
  · unfold Context.copy
    split <;> simp [hcopy]
  · split
    · simp [Context.storeApart, Variable.stringStores_initialization, hscalar, hcopy]
    · simp [Context.storeInto, hscalar, hreinit]

theorem Binds.stringStores_eq {call : Call} {demand : Demand} {destination : Destination}
    (h : Binds call demand ctx destination ctx') :
    ctx'.instructions.filter isStringStore = ctx.instructions.filter isStringStore := by
  cases h with
  | anywhere => exact Context.stringStores_allocate ctx .heapTemporary
  | apart _ _ => exact Context.stringStores_allocate ctx .heapTemporary
  | reused _ _ => rfl

end Steps

section Derivations

variable {k : Knowledge} {ctx ctx' : Context}

theorem StoresLiterals.box {argument : Expression} {boxing : Boxing}
    (h : ctx.boxing? argument = some boxing) (mode : ArgumentMode) :
    StoresLiterals argument.stringLiterals ctx (ctx.box mode boxing).2 := by
  refine .of_block ((ctx.box_instructions mode boxing).trans (List.append_assoc _ _ _)) ?_
  rw [List.filter_append, Variable.stringStores_initialization, List.nil_append]
  cases argument with
  | literal value span =>
    cases value with
    | string value =>
      cases h
      exact .cons (.of_allocate _ _ _ _) .nil
    | null => cases h
    | _ => cases h; exact .nil
  | var name span =>
    obtain ⟨v, _, hboxing⟩ := Option.bind_eq_some_iff.mp h
    rw [List.filter_singleton, VariableType.isStringStore_boxing? hboxing]
    exact .nil
  | call function arguments span => cases h

theorem Boxes.storesLiterals {arguments : List Expression} {mode : ArgumentMode}
    {operands : List Operand} (h : Boxes k arguments mode ctx operands ctx') :
    StoresLiterals (Expression.allStringLiterals arguments) ctx ctx' := by
  induction h with
  | nil _ => exact .of_block (List.append_nil _).symm .nil
  | store _ hboxing _ ih => exact (StoresLiterals.box hboxing _).trans ih
  | pass _ _ _ _ ih => exact ih
  | @condition function arguments span contract inner ctx₁ rest mode ctx operands ctx' _ _ _ _
      iharguments ihrest =>
    have hinner : StoresLiterals (Expression.allStringLiterals arguments) ctx ctx₁ :=
      iharguments.of_start (by simp)
    refine (hinner.of_end ?_).trans ihrest
    simp [Variable.stringStores_initialization, HelperContract.conditionBoxing, Boxing.store,
      Instruction.isStringStore]
  | @routine function arguments span routine inner ctx₁ rest mode ctx operands ctx' _ _ _ _
      iharguments ihrest =>
    have hinner : StoresLiterals (Expression.allStringLiterals arguments) ctx ctx₁ :=
      iharguments.of_start (by simp)
    refine (hinner.of_end ?_).trans ihrest
    rw [Context.stringStores_deliver, Context.stringStores_allocate]

theorem Compiles.storesLiterals {call : Call} {demand : Demand} {result : Compiled}
    (h : Compiles k call demand ctx result ctx') :
    StoresLiterals (Expression.allStringLiterals call.arguments) ctx ctx' ∧
      result.kind ≠ .string := by
  cases h with
  | condition _ harguments => exact ⟨harguments.storesLiterals.of_start (by simp), nofun⟩
  | @discarded mode arguments _ ctx₁ _ harguments =>
    have hstores := harguments.storesLiterals
    refine ⟨(hstores.of_start (by simp)).of_end ?_, nofun⟩
    simp [Routine.isStringStore_instruction]
  | delivered _ harguments hdestination _ =>
    have hstores := harguments.storesLiterals
    refine ⟨(hstores.of_start (by simp)).of_end ?_, nofun⟩
    rw [Context.stringStores_deliver, hdestination.stringStores_eq]

theorem Performs.storesLiterals {statement : Statement} (h : Performs k statement ctx ctx') :
    StoresLiterals statement.stringLiterals ctx ctx' := by
  cases h with
  | call hcompiles => exact hcompiles.storesLiterals.1
  | assign hcompiles _ _ =>
    obtain ⟨hstores, hkind⟩ := hcompiles.storesLiterals
    exact hstores.of_end (Context.stringStores_assign _ _ _ hkind)

theorem Runs.storesLiterals {statements : List Statement} (h : Runs k statements ctx ctx') :
    StoresLiterals (statements.flatMap Statement.stringLiterals) ctx ctx' := by
  induction h with
  | nil _ => exact .of_block (List.append_nil _).symm .nil
  | cons hperforms _ ih =>
    rw [List.flatMap_cons]
    exact hperforms.storesLiterals.trans ih

end Derivations

theorem boxArguments_string (value : String) (span : Span) (mode : ArgumentMode) (w : Workspace) :
    ∃ operand w', boxArguments [.literal (.string value) span] mode w = .ok [operand] w' ∧
      StoresLiterals [value] w.context w'.context := by
  have hrun : boxArguments [.literal (.string value) span] mode w =
      .ok [(w.context.box mode (.string (.quoted value))).1]
        { w with context := (w.context.box mode (.string (.quoted value))).2 } := by
    cases mode <;> rfl
  have hboxing : w.context.boxing? (.literal (.string value) span) =
      some (.string (.quoted value)) := rfl
  exact ⟨_, _, hrun, StoresLiterals.box hboxing mode⟩

namespace CompiledFunction

def HasLine (compiled : CompiledFunction) (line : String) : Prop :=
  ∃ before after, compiled.code = before ++ "\n\t" ++ line ++ "\n" ++ after

theorem break_tab : "\n\t" = "\n" ++ "\t" := by
  decide

theorem exists_append_break (text : String) (lines : List String) :
    ∃ before, text ++ "\n" ++ indented lines = before ++ "\n" := by
  induction lines generalizing text with
  | nil => exact ⟨text, String.append_empty⟩
  | cons line rest ih =>
    obtain ⟨before, hbefore⟩ := ih (text ++ "\n\t" ++ line)
    refine ⟨before, ?_⟩
    rw [← hbefore, indented_cons, break_tab]
    simp only [String.append_assoc]

theorem exists_code_eq (compiled : CompiledFunction) :
    ∃ head, compiled.code =
      head ++ "\n" ++ indented compiled.context.lines ++ "\x7d\n" := by
  obtain ⟨head, hhead⟩ := exists_append_break ("void " ++ compiled.functionName ++ "(void) \x7b")
    compiled.declarationLines
  rw [code_eq, ← String.append_assoc, hhead]
  split
  · refine ⟨head, ?_⟩
    simp only [String.append_assoc, String.empty_append]
  · refine ⟨head ++ "\n", ?_⟩
    simp only [String.append_assoc]

theorem hasLine_of_mem {compiled : CompiledFunction} {instruction : Instruction}
    (h : instruction ∈ compiled.context.instructions) : compiled.HasLine instruction.render := by
  obtain ⟨first, last, hsplit⟩ := List.append_of_mem h
  obtain ⟨head, hhead⟩ := compiled.exists_code_eq
  obtain ⟨before, hbefore⟩ := exists_append_break head (first.map Instruction.render)
  refine ⟨before, indented (last.map Instruction.render) ++ "\x7d\n", ?_⟩
  rw [hhead, Context.lines, hsplit, List.map_append, List.map_cons, indented_append, indented_cons,
    ← String.append_assoc, hbefore, break_tab]
  simp only [String.append_assoc]

end CompiledFunction

theorem string_literals_survive :
    (∀ value : String,
      Text.IsLiteralText (Text.escape value).toList ∧
        (∀ after, Text.scanLiteral ((Text.escape value).toList ++ '"' :: after) =
          some ((Text.escape value).toList, after)) ∧
        Text.unescapeFrom false (Text.escape value).toList = some value.toList) ∧
      Function.Injective Text.escape ∧
      (∀ value span mode w, ∃ operand w',
        boxArguments [.literal (.string value) span] mode w = .ok [operand] w' ∧
          StoresLiterals [value] w.context w'.context) ∧
      (∀ compiled : CompiledFunction, ∀ instruction ∈ compiled.context.instructions,
        compiled.HasLine instruction.render) ∧
      ∀ (unit : CallUnit) (compiler : Compiler) (compiled : CompiledFunction),
        compiler.knowledge.FollowsCalls → (compileUnit unit compiler).1 = .ok compiled →
        List.Forall₂ (fun value instruction => instruction.StoresLiteral value)
          unit.stringLiterals (compiled.context.instructions.filter Instruction.isStringStore) := by
  have hunescape : ∀ value : String,
      Text.unescapeFrom false (Text.escape value).toList = some value.toList := by
    intro value
    rw [Text.escape, String.toList_ofList]
    exact Text.unescapeFrom_escapeChars value.toList
  refine ⟨fun value => ⟨?_, ?_, hunescape value⟩, ?_, boxArguments_string, ?_, ?_⟩
  · rw [Text.escape, String.toList_ofList]
    exact Text.isLiteralText_escapeChars value.toList
  · intro after
    rw [Text.escape, String.toList_ofList]
    exact Text.scanLiteral_escapeChars value.toList after
  · intro first second h
    have hvalues := hunescape first
    rw [h, hunescape second, Option.some.injEq] at hvalues
    exact (String.toList_inj.mp hvalues).symm
  · intro compiled instruction hmem
    exact CompiledFunction.hasLine_of_mem hmem
  · intro unit compiler compiled hfollows hcompiled
    have hruns := compileUnit_runs hfollows hcompiled
    obtain ⟨emitted, hemitted, hliterals⟩ := hruns.storesLiterals
    rw [declareAll_instructions] at hemitted
    rw [hemitted]
    exact hliterals

def CallUnit.quotations : CallUnit where
  functionName := "f"
  declarations := [⟨"text", .boxed⟩]
  statements := [.assign "text"
    ⟨"foo", [.literal (.string "say \"\\n\"\t\\") {}, .call "bar" [.literal (.string "\n") {}] {}],
      {}⟩]

def quotationsCode : List Instruction := [
  .init (.var "_0"),
  .storeString (.var "_0") (.quoted "say \"\\n\"\t\\") true,
  .init (.var "_1"),
  .storeString (.var "_1") (.quoted "\n") true,
  .init (.var "_2"),
  .callFunction "bar" (some (.var "_2")) [.var "_1"],
  .reinit (.var "text"),
  .callFunction "foo" (some (.var "text")) [.var "_0", .var "_2"]]

theorem quotations_survive :
    ∃ compiled, Compiler.standard.knowledge.FollowsCalls ∧
      (compileUnit .quotations .standard).1 = .ok compiled ∧
      compiled.context.instructions = quotationsCode ∧
      List.Forall₂ (fun value instruction => instruction.StoresLiteral value)
        ["say \"\\n\"\t\\", "\n"] (quotationsCode.filter Instruction.isStringStore) ∧
      compiled.HasLine "ZVAL_STRING(_1, \"\\n\", 1);" := by
  have hfollows : Compiler.standard.knowledge.FollowsCalls :=
    (Compiler.usesContracts_new .standard (.inl rfl)).followsCalls
  have hcode : acceptedCode .quotations .standard = some quotationsCode := by decide +kernel
  obtain ⟨compiled, hcompiled, hinstructions⟩ := acceptedCode_eq_some_iff.mp hcode
  obtain ⟨_, _, _, hlines, hunits⟩ := string_literals_survive
  have hliterals := hunits _ _ compiled hfollows hcompiled
  have hline := hlines compiled (.storeString (.var "_1") (.quoted "\n") true)
  rw [hinstructions] at hliterals hline
  refine ⟨compiled, hfollows, hcompiled, hinstructions, hliterals, ?_⟩
  have hrender : (Instruction.storeString (.var "_1") (.quoted "\n") true).render =
      "ZVAL_STRING(_1, \"\\n\", 1);" := by decide +kernel
  rw [← hrender]
  exact hline (by decide)

end BoxedCalls
