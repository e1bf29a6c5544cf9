import AwaitCalls.Proofs.Print.Plain

/-!
# Rules for nodes without comments

Every rule of the printer does, without comments, the same for plain parts as for the parts themselves,
wherever the node stands in the text. Rules that only put words around parts are settled in the tables
at the end; a rule that looks at its parts has a lemma of its own.
-/
namespace AwaitCalls.Print

open AwaitCalls.Syntax AwaitCalls.Text

/-! ## Expressions -/

@[simp]
theorem plain_inParens (p : Write Unit) : plain (inParens p) = inParens (plain p) := rfl

@[simp]
theorem plain_spaceBefore (o : Option Part) :
    plain (spaceBefore (o.map Part.plain)) = plain (spaceBefore o) := by
  cases o <;> simp [spaceBefore]

@[simp]
theorem plain_spaceBefore_some (p : Part) :
    plain (spaceBefore (some p.plain)) = plain (spaceBefore (some p)) := plain_spaceBefore (some p)

theorem plain_commaList (ps : Parts) (slot : Slot) (span span' : Span) :
    plain (commaList (Parts.plain ps) slot span') = plain (commaList ps slot span) := by
  rw [commaList, commaList, Parts.all_plain, plain_list]

theorem plain_templateWith (minify isTagged : Bool) (qs es : Parts) :
    plain (templateWith minify isTagged (Parts.plain qs) (Parts.plain es)) =
      plain (templateWith minify isTagged qs es) := by
  induction qs generalizing es with
  | nil => rfl
  | cons q qs ih =>
    rw [Parts.plain]
    unfold templateWith
    rw [kind_plain]
    cases es with
    | nil =>
      have hnil := ih []
      simp only [Parts.plain] at hnil ⊢
      split <;> simp [hnil]
    | cons e es =>
      simp only [Parts.plain]
      split <;> simp [ih es]

@[simp]
theorem plain_template (ps : Parts) (isTagged : Bool) :
    plain (template (Parts.plain ps) isTagged) = plain (template ps isTagged) := by
  simp [template, plain_templateWith]

theorem plain_arguments (ps : Parts) (span span' : Span) :
    plain (arguments (Parts.plain ps) span') = plain (arguments ps span) := by
  rw [arguments, arguments, plain_inParens, plain_inParens, plain_commaList]

theorem plain_newWith (hasArgs keepEmpty : Bool) (ps : Parts) (span span' : Span) :
    plain (newWith hasArgs keepEmpty (Parts.plain ps) span') =
      plain (newWith hasArgs keepEmpty ps span) := by
  simp [newWith, plain_arguments ps span span']

@[simp]
theorem plain_beforeSubscript (p : Part) :
    plain (beforeSubscript p.plain) = plain (beforeSubscript p) := by
  unfold beforeSubscript
  rw [kind_plain]
  split
  · simp [plain_newWith _ _ _ p.span]
  · simp

@[simp]
theorem plain_taggedTemplate (ps : Parts) :
    plain (taggedTemplate (Parts.plain ps)) = plain (taggedTemplate ps) := by
  cases htag : Parts.get? ps .tag <;> cases htemplate : Parts.get? ps .template <;>
    simp [taggedTemplate, htag, htemplate]

@[simp]
theorem plain_dotted (ps : Parts) : plain (dotted (Parts.plain ps)) = plain (dotted ps) := by
  unfold dotted
  rw [Parts.get?_plain]
  cases Parts.get? ps .property with
  | none => rfl
  | some p =>
    simp only [Option.map_some, kind_plain]
    split <;> simp

@[simp]
theorem plain_property (ps : Parts) (mark : String) :
    plain (property (Parts.plain ps) mark) = plain (property ps mark) := by
  unfold property
  rw [Parts.get?_plain]
  cases Parts.get? ps .property with
  | none => rfl
  | some p =>
    simp only [Option.map_some, kind_plain]
    split <;> simp

@[simp]
theorem plain_member (ps : Parts) : plain (member (Parts.plain ps)) = plain (member ps) := by
  unfold member
  rw [Parts.get?_plain, Parts.get?_plain]
  cases Parts.get? ps .memberObject with
  | none => simp
  | some o =>
    simp only [Option.map_some, kind_plain]
    split
    · cases Parts.get? ps .property <;> simp
    · simp

@[simp]
theorem plain_optionalChain (isOptional : Bool) (ps : Parts) :
    plain (optionalChain isOptional (Parts.plain ps)) = plain (optionalChain isOptional ps) := by
  unfold optionalChain
  rw [Parts.get?_plain]
  cases Parts.get? ps .expr with
  | none => rfl
  | some base =>
    simp only [Option.map_some, kind_plain, parts_plain]
    split
    · cases hobject : Parts.get? base.parts .memberObject <;> simp [hobject]
    · simp [plain_arguments base.parts base.span]

theorem plain_call (ps : Parts) (span span' : Span) :
    plain (call (Parts.plain ps) span') = plain (call ps span) := by
  cases h : Parts.get? ps .callee <;> simp [call, h, plain_arguments ps span span']

@[simp]
theorem unaryNeedsSpace_spanless (op : UnaryOp) (n : Node) :
    unaryNeedsSpace op n.spanless = unaryNeedsSpace op n := by
  unfold unaryNeedsSpace
  rw [startsWithWord_spanless, Node.kind_spanless]

@[simp]
theorem plain_unary (op : UnaryOp) (ps : Parts) :
    plain (unary op (Parts.plain ps)) = plain (unary op ps) := by
  cases h : Parts.get? ps .operand <;> simp [unary, h]

theorem firstOperand_spanless : ∀ n : Node, firstOperand n.spanless = (firstOperand n).spanless
  | .mk kind _ .nil => by cases kind <;> rfl
  | .mk kind _ (.cons _ left _) => by
    have ih := firstOperand_spanless left
    cases kind with
    | binary => exact ih
    | _ => rfl

theorem isNegatedDecrement_spanless : ∀ n : Node, isNegatedDecrement n.spanless = isNegatedDecrement n
  | .mk kind _ .nil => by
    cases kind with
    | unary op => cases op <;> rfl
    | _ => rfl
  | .mk kind _ (.cons _ (.mk inner _ _) _) => by
    cases kind with
    | unary op =>
      cases op with
      | not =>
        cases inner with
        | update op => cases op <;> rfl
        | _ => rfl
      | _ => rfl
    | _ => rfl

@[simp]
theorem signNeedsSpace_spanless (op : BinaryOp) (n : Node) :
    signNeedsSpace op n.spanless = signNeedsSpace op n := by
  unfold signNeedsSpace
  dsimp only
  rw [firstOperand_spanless, Node.kind_spanless, isNegatedDecrement_spanless]

@[simp]
theorem markNeedsSpace_spanless (op : BinaryOp) (n : Node) :
    markNeedsSpace op n.spanless = markNeedsSpace op n := by
  unfold markNeedsSpace
  rw [Node.kind_spanless]

@[simp]
theorem plain_binary (op : BinaryOp) (ps : Parts) :
    plain (binary op (Parts.plain ps)) = plain (binary op ps) := by
  match ps with
  | [] | [_] | _ :: _ :: _ :: _ => rfl
  | [left, right] => simp [binary, Parts.plain]

@[simp]
theorem plain_yieldExpr (isDelegate : Bool) (ps : Parts) :
    plain (yieldExpr isDelegate (Parts.plain ps)) = plain (yieldExpr isDelegate ps) := by
  cases h : Parts.get? ps .operand <;> simp [yieldExpr, h]

theorem plain_array (ps : Parts) (span span' : Span) :
    plain (array (Parts.plain ps) span') = plain (array ps span) := by
  cases h : (Parts.all ps .element).getLast? <;> simp [array, h, plain_list _ span span']

theorem plain_object (ps : Parts) (span span' : Span) :
    plain (object (Parts.plain ps) span') = plain (object ps span) := by
  simp [object, plain_list _ span span']

@[simp]
theorem plain_patternType (gap : Write Unit) (ps : Parts) :
    plain (patternType gap (Parts.plain ps)) = plain (patternType gap ps) := by
  cases h : Parts.get? ps .typeAnn <;> simp [patternType, h]

theorem plain_arrayPattern (isOptional : Bool) (ps : Parts) (span span' : Span) :
    plain (arrayPattern isOptional (Parts.plain ps) span') =
      plain (arrayPattern isOptional ps span) := by
  cases h : (Parts.all ps .element).getLast? <;>
    simp [arrayPattern, patternEnd, h, plain_list _ span span']

theorem plain_objectPattern (isOptional : Bool) (ps : Parts) (span span' : Span) :
    plain (objectPattern isOptional (Parts.plain ps) span') =
      plain (objectPattern isOptional ps span) := by
  simp [objectPattern, patternEnd, plain_list _ span span']

/-! ## Functions and classes -/

@[simp]
theorem plain_access (mods : Modifiers) : plain (access mods) = access mods := by
  unfold access
  split <;> rfl

@[simp]
theorem plain_decorators (ps : Parts) : plain (decorators (Parts.plain ps)) = plain (decorators ps) :=
  Parts.plain_printAll ps .decorator

theorem plain_paramDecorators (ps : Parts) (span span' : Span) :
    plain (paramDecorators (Parts.plain ps) span') = plain (paramDecorators ps span) := by
  rw [paramDecorators, paramDecorators, Parts.all_plain, plain_list]

@[simp]
theorem plain_returnType (ps : Parts) : plain (returnType (Parts.plain ps)) = plain (returnType ps) := by
  cases h : Parts.get? ps .returnType <;> simp [returnType, h]

theorem plain_functionTail (ps : Parts) (span span' : Span) :
    plain (functionTail (Parts.plain ps) span') = plain (functionTail ps span) := by
  cases h : Parts.get? ps .body <;> simp [functionTail, h, plain_commaList ps .param span span']

@[simp]
theorem functionFlags_plain (ps : Parts) : functionFlags (Parts.plain ps) = functionFlags ps := by
  unfold functionFlags
  rw [Parts.get?_plain]
  cases Parts.get? ps .function with
  | none => rfl
  | some f => simp only [Option.map_some, kind_plain]

theorem plain_namedFunction {gap : Write Unit} (hgap : plain gap = gap) (ps : Parts) :
    plain (namedFunction gap (Parts.plain ps)) = plain (namedFunction gap ps) := by
  cases h : Parts.get? ps .ident <;> simp [namedFunction, h, hgap]

theorem plain_arrow (isAsync : Bool) (ps : Parts) (span span' : Span) :
    plain (arrow isAsync (Parts.plain ps) span') = plain (arrow isAsync ps span) := by
  cases hreturn : Parts.get? ps .returnType <;> cases hbody : Parts.get? ps .body <;>
    simp [arrow, hreturn, hbody, plain_list _ span span']

@[simp]
theorem isPrivateKey_plain (ps : Parts) : isPrivateKey (Parts.plain ps) = isPrivateKey ps := by
  unfold isPrivateKey
  rw [Parts.get?_plain]
  cases Parts.get? ps .key with
  | none => rfl
  | some k => simp only [Option.map_some, Option.any_some, kind_plain]

@[simp]
theorem plain_accessorKey (keyword : String) (ps : Parts) :
    plain (accessorKey keyword (Parts.plain ps)) = plain (accessorKey keyword ps) := by
  simp [accessorKey]

@[simp]
theorem plain_getter (ps : Parts) : plain (getter (Parts.plain ps)) = plain (getter ps) := by
  cases h : Parts.get? ps .typeAnn <;> simp [getter, h]

@[simp]
theorem plain_setter (ps : Parts) : plain (setter (Parts.plain ps)) = plain (setter ps) := by
  cases h : Parts.get? ps .thisParam <;> simp [setter, h]

theorem plain_classTail (ps : Parts) (span span' : Span) :
    plain (classTail (Parts.plain ps) span') = plain (classTail ps span) := by
  cases h : Parts.get? ps .superclass <;> simp [classTail, h, plain_list _ span span']

@[simp]
theorem plain_klass (hasDecorators : Bool) (ps : Parts) :
    plain (klass hasDecorators (Parts.plain ps)) = plain (klass hasDecorators ps) := by
  cases hklass : Parts.get? ps .klass with
  | none => simp [klass, hklass]
  | some k =>
    cases hident : Parts.get? ps .ident <;>
      simp [klass, hklass, hident, plain_classTail k.parts k.span]

@[simp]
theorem keyStartsWithWord_plain (ps : Parts) :
    keyStartsWithWord (Parts.plain ps) = keyStartsWithWord ps := by
  cases h : Parts.get? ps .key <;> simp [keyStartsWithWord, h]

@[simp]
theorem plain_method (kind : MethodKind) (mods : Modifiers) (ps : Parts) :
    plain (method kind mods (Parts.plain ps)) = plain (method kind mods ps) := by
  cases hfunction : Parts.get? ps .function with
  | none =>
    cases hkey : Parts.get? ps .key <;> cases kind <;> simp [method, hkey, hfunction]
  | some f =>
    cases hkey : Parts.get? ps .key <;> cases kind <;>
      simp [method, hkey, hfunction, plain_functionTail f.parts f.span]

theorem plain_field (isAccessor : Bool) (mods : Modifiers) (ps : Parts) (span span' : Span) :
    plain (field isAccessor mods (Parts.plain ps) span') = plain (field isAccessor mods ps span) := by
  cases htype : Parts.get? ps .typeAnn <;> cases hvalue : Parts.get? ps .value <;>
    simp [field, htype, hvalue, plain_paramDecorators ps span span']

theorem plain_constructor (mods : Modifiers) (ps : Parts) (span span' : Span) :
    plain (constructor mods (Parts.plain ps) span') = plain (constructor mods ps span) := by
  cases h : Parts.get? ps .body <;> simp [constructor, h, plain_commaList ps .param span span']

/-! ## Statements -/

@[simp]
theorem plain_declaration (p : Part) : plain (declaration p.plain) = plain (declaration p) := by
  unfold declaration
  rw [kind_plain]
  split <;> simp

@[simp]
theorem plain_statement (p : Part) : plain (statement p.plain) = plain (statement p) := by
  simp [statement]

@[simp]
theorem plain_statementIn (ps : Parts) (slot : Slot) :
    plain (statementIn (Parts.plain ps) slot) = plain (statementIn ps slot) := by
  cases h : Parts.get? ps slot <;> simp [statementIn, h]

theorem plain_block (ps : Parts) (span span' : Span) :
    plain (block (Parts.plain ps) span') = plain (block ps span) := by
  simp [block, plain_listOf plain_statement _ span span']

theorem plain_variableList (kind : VarKind) (isDeclare : Bool) (ps : Parts) (span span' : Span) :
    plain (variableList kind isDeclare (Parts.plain ps) span') =
      plain (variableList kind isDeclare ps span) := by
  cases hfirst : (Parts.all ps .declarator).head? with
  | none => simp [variableList, hfirst, plain_list _ span span']
  | some d =>
    cases hident : Parts.get? d.parts .ident <;>
      simp [variableList, hfirst, hident, plain_list _ span span']

@[simp]
theorem plain_ifStatement (ps : Parts) : plain (ifStatement (Parts.plain ps)) = plain (ifStatement ps) := by
  cases halt : Parts.get? ps .alternate <;> cases hthen : Parts.get? ps .consequent <;>
    simp [ifStatement, halt, hthen]

theorem plain_switchCase (ps : Parts) (span span' : Span) :
    plain (switchCase (Parts.plain ps) span') = plain (switchCase ps span) := by
  cases h : Parts.get? ps .test <;>
    simp [switchCase, h, plain_listOf plain_statement _ span span']

@[simp]
theorem plain_tryStatement (ps : Parts) :
    plain (tryStatement (Parts.plain ps)) = plain (tryStatement ps) := by
  cases hhandler : Parts.get? ps .handler <;> cases hfinal : Parts.get? ps .finalizer <;>
    simp [tryStatement, hhandler, hfinal]

@[simp]
theorem plain_catchClause (ps : Parts) :
    plain (catchClause (Parts.plain ps)) = plain (catchClause ps) := by
  cases h : Parts.get? ps .param <;> simp [catchClause, h]

@[simp]
theorem plain_doLoop (ps : Parts) : plain (doLoop (Parts.plain ps)) = plain (doLoop ps) := by
  cases h : Parts.get? ps .body <;> simp [doLoop, h]

@[simp]
theorem plain_forLoop (ps : Parts) : plain (forLoop (Parts.plain ps)) = plain (forLoop ps) := by
  cases htest : Parts.get? ps .test <;> cases hupdate : Parts.get? ps .update <;>
    simp [forLoop, htest, hupdate]

@[simp]
theorem plain_forEach (keyword : String) (ps : Parts) :
    plain (forEach keyword (Parts.plain ps)) = plain (forEach keyword ps) := by
  cases h : Parts.get? ps .left <;> simp [forEach, h]

@[simp]
theorem plain_jump (keyword : String) (ps : Parts) :
    plain (jump keyword (Parts.plain ps)) = plain (jump keyword ps) := by
  cases h : Parts.get? ps .label <;> simp [jump, h]

@[simp]
theorem plain_jumpWith (keyword : String) (ps : Parts) :
    plain (jumpWith keyword (Parts.plain ps)) = plain (jumpWith keyword ps) := by
  cases h : Parts.get? ps .expr <;> simp [jumpWith, h]

/-! ## Modules and markup -/

@[simp]
theorem plain_moduleSource (ps : Parts) :
    plain (moduleSource (Parts.plain ps)) = plain (moduleSource ps) := by
  cases h : Parts.get? ps .attributes <;> simp [moduleSource, h]

theorem plain_importDecl (isTypeOnly : Bool) (phase : ImportPhase) (ps : Parts) (span span' : Span) :
    plain (importDecl isTypeOnly phase (Parts.plain ps) span') =
      plain (importDecl isTypeOnly phase ps span) := by
  cases phase <;> simp [importDecl, plain_list _ span span']

@[simp]
theorem plain_renamed (isTypeOnly : Bool) (from? alias? : Option Part) :
    plain (renamed isTypeOnly (from?.map Part.plain) (alias?.map Part.plain)) =
      plain (renamed isTypeOnly from? alias?) := by
  cases from? <;> cases alias? <;> simp [renamed]

theorem plain_exportNamed (isTypeOnly : Bool) (ps : Parts) (span span' : Span) :
    plain (exportNamed isTypeOnly (Parts.plain ps) span') = plain (exportNamed isTypeOnly ps span) := by
  simp [exportNamed, plain_list _ span span']

@[simp]
theorem plain_exportDecl (ps : Parts) : plain (exportDecl (Parts.plain ps)) = plain (exportDecl ps) := by
  unfold exportDecl
  rw [Parts.get?_plain]
  cases Parts.get? ps .decl with
  | none => rfl
  | some d =>
    simp only [Option.map_some, kind_plain, parts_plain]
    split
    · cases hklass : Parts.get? d.parts .klass <;> simp [hklass]
    · simp

@[simp]
theorem plain_exportAssignment (p : Write Unit) :
    plain (exportAssignment p) = exportAssignment (plain p) := by
  simp [exportAssignment]

theorem plain_jsxOpening (isSelfClosing : Bool) (ps : Parts) (span span' : Span) :
    plain (jsxOpening isSelfClosing (Parts.plain ps) span') =
      plain (jsxOpening isSelfClosing ps span) := by
  simp [jsxOpening, plain_list _ span span']

@[simp]
theorem plain_jsxAttr (ps : Parts) : plain (jsxAttr (Parts.plain ps)) = plain (jsxAttr ps) := by
  cases h : Parts.get? ps .value <;> simp [jsxAttr, h]

/-! ## Types -/

@[simp]
theorem plain_after (mark : String) (ps : Parts) (slot : Slot) :
    plain (after mark (Parts.plain ps) slot) = plain (after mark ps slot) := by
  cases h : Parts.get? ps slot <;> simp [after, h]

@[simp]
theorem plain_typeParam (name : String) (isIn isOut isConst : Bool) (ps : Parts) :
    plain (typeParam name isIn isOut isConst (Parts.plain ps)) =
      plain (typeParam name isIn isOut isConst ps) := by
  cases hconstraint : Parts.get? ps .constraint <;> cases hdefault : Parts.get? ps .defaultType <;>
    simp [typeParam, hconstraint, hdefault]

theorem plain_functionType (ps : Parts) (span span' : Span) :
    plain (functionType (Parts.plain ps) span') = plain (functionType ps span) := by
  simp [functionType, plain_commaList ps .formal span span']

@[simp]
theorem plain_typeImport (ps : Parts) : plain (typeImport (Parts.plain ps)) = plain (typeImport ps) := by
  cases hwith : Parts.get? ps .attributes <;> cases hqualifier : Parts.get? ps .qualifier <;>
    simp [typeImport, hwith, hqualifier]

@[simp]
theorem plain_typeMember (p : Part) : plain (typeMember p.plain) = plain (typeMember p) := by
  unfold typeMember
  rw [kind_plain]
  split <;> simp

theorem plain_typeMembers (ps : Parts) (span span' : Span) :
    plain (typeMembers (Parts.plain ps) span') = plain (typeMembers ps span) := by
  simp [typeMembers, plain_listOf plain_typeMember _ span span']

@[simp]
theorem plain_tupleElement (ps : Parts) :
    plain (tupleElement (Parts.plain ps)) = plain (tupleElement ps) := by
  cases h : Parts.get? ps .label <;> simp [tupleElement, h]

@[simp]
theorem plain_mappedMark (m : MappedModifier) (mark : String) :
    plain (mappedMark m mark) = mappedMark m mark := by
  cases m <;> rfl

@[simp]
theorem plain_mappedType (readonlyMod optionalMod : MappedModifier) (ps : Parts) :
    plain (mappedType readonlyMod optionalMod (Parts.plain ps)) =
      plain (mappedType readonlyMod optionalMod ps) := by
  unfold mappedType
  simp only [Parts.get?_plain]
  cases Parts.get? ps .nameType <;> cases Parts.get? ps .typeAnn <;>
    cases Parts.get? ps .param with
  | none => simp
  | some p =>
    simp only [Option.map_some, kind_plain, parts_plain]
    split <;> simp

@[simp]
theorem plain_typePredicate (isAsserts : Bool) (ps : Parts) :
    plain (typePredicate isAsserts (Parts.plain ps)) = plain (typePredicate isAsserts ps) := by
  cases h : Parts.get? ps .typeAnn <;> simp [typePredicate, h]

@[simp]
theorem plain_memberKey (isComputed : Bool) (ps : Parts) :
    plain (memberKey isComputed (Parts.plain ps)) = plain (memberKey isComputed ps) := by
  simp [memberKey]

theorem plain_callSignature (ps : Parts) (span span' : Span) :
    plain (callSignature (Parts.plain ps) span') = plain (callSignature ps span) := by
  cases h : Parts.get? ps .returnType <;>
    simp [callSignature, h, plain_commaList ps .formal span span']

theorem plain_constructSignature (ps : Parts) (span span' : Span) :
    plain (constructSignature (Parts.plain ps) span') = plain (constructSignature ps span) := by
  cases h : Parts.get? ps .returnType <;>
    simp [constructSignature, h, plain_commaList ps .formal span span']

theorem plain_interface (isDeclare : Bool) (ps : Parts) (span span' : Span) :
    plain (interface isDeclare (Parts.plain ps) span') = plain (interface isDeclare ps span) := by
  simp [interface, plain_list _ span span', plain_typeMembers ps span span']

theorem plain_moduleBlock (ps : Parts) (span span' : Span) :
    plain (moduleBlock (Parts.plain ps) span') = plain (moduleBlock ps span) := by
  simp [moduleBlock, plain_listOf plain_statement _ span span']

@[simp]
theorem plain_namespaceTail (fuel : Nat) (ps : Parts) :
    plain (namespaceTail fuel (Parts.plain ps)) = plain (namespaceTail fuel ps) := by
  induction fuel generalizing ps with
  | zero => rfl
  | succ fuel ih =>
    unfold namespaceTail
    rw [Parts.get?_plain]
    cases Parts.get? ps .body with
    | none => rfl
    | some b =>
      simp only [Option.map_some, kind_plain, parts_plain]
      split <;> simp [ih]

@[simp]
theorem plain_namespaceDecl (isDeclare : Bool) (keyword : NamespaceKeyword) (ps : Parts) :
    plain (namespaceDecl isDeclare keyword (Parts.plain ps)) =
      plain (namespaceDecl isDeclare keyword ps) := by
  cases hident : Parts.get? ps .ident <;> cases hbody : Parts.get? ps .body <;>
    simp [namespaceDecl, hident, hbody]

/-! ## Tables of rules -/

section Tables

variable (kind : Kind) (span span' : Span) (ps : Parts)

theorem plain_expressionRule :
    (expressionRule kind span' (Parts.plain ps)).map plain = (expressionRule kind span ps).map plain := by
  cases kind with
  | array => exact congrArg some (plain_array ps span span')
  | object => exact congrArg some (plain_object ps span span')
  | call => exact congrArg some (plain_call ps span span')
  | new hasArgs => exact congrArg some (plain_newWith hasArgs false ps span span')
  | seq => exact congrArg some (plain_commaList ps .element span span')
  | arrow isAsync => exact congrArg some (plain_arrow isAsync ps span span')
  | arrayPat isOptional => exact congrArg some (plain_arrayPattern isOptional ps span span')
  | objectPat isOptional => exact congrArg some (plain_objectPattern isOptional ps span span')
  | fnExpr => exact congrArg some (plain_namedFunction plain_space ps)
  | importCallee phase => cases phase <;> rfl
  | _ =>
    first
    | rfl
    | simp [expressionRule, spread, keyValue, methodProperty, update, assign, conditional, awaitExpr,
        asserted, constAssertion, typeAssertion, nonNull, instantiation, jsxElement, jsxFragment,
        binding, restPattern, withDefault, assignPatternProperty]

theorem plain_statementRule :
    (statementRule kind span' (Parts.plain ps)).map plain = (statementRule kind span ps).map plain := by
  cases kind with
  | block => exact congrArg some (plain_block ps span span')
  | varDecl kind isDeclare => exact congrArg some (plain_variableList kind isDeclare ps span span')
  | function => exact congrArg some (plain_functionTail ps span span')
  | switchCase => exact congrArg some (plain_switchCase ps span span')
  | property mods => exact congrArg some (plain_field false mods ps span span')
  | autoAccessor mods => exact congrArg some (plain_field true mods ps span span')
  | ctor mods => exact congrArg some (plain_constructor mods ps span span')
  | _ =>
    first
    | rfl
    | simp [statementRule, expressionStatement, usingVariables, declarator, withDefault,
        switchStatement, whileLoop, forIn, forOf, labeled, withStatement, param, paramProperty,
        decorator, indexSignature, plain_namedFunction plain_optSpace, plain_list _ span span',
        plain_paramDecorators ps span span']

theorem plain_moduleRule :
    (moduleRule kind span' (Parts.plain ps)).map plain = (moduleRule kind span ps).map plain := by
  cases kind with
  | importDecl isTypeOnly phase => exact congrArg some (plain_importDecl isTypeOnly phase ps span span')
  | exportNamed isTypeOnly => exact congrArg some (plain_exportNamed isTypeOnly ps span span')
  | _ =>
    first
    | rfl
    | simp [moduleRule, importNamespace, exportNamespace, exportAll, exportDefaultDecl,
        exportDefaultExpr, importEquals, externalReference]

theorem plain_markupRule :
    (markupRule kind span' (Parts.plain ps)).map plain = (markupRule kind span ps).map plain := by
  cases kind with
  | jsxOpening isSelfClosing => exact congrArg some (plain_jsxOpening isSelfClosing ps span span')
  | _ =>
    first
    | rfl
    | simp [markupRule, jsxClosing, jsxContainer, inBraces, spread]

theorem plain_typeRule :
    (typeRule kind span' (Parts.plain ps)).map plain = (typeRule kind span ps).map plain := by
  cases kind with
  | typeFn => exact congrArg some (plain_functionType ps span span')
  | typeLit => exact congrArg some (plain_typeMembers ps span span')
  | callSig => exact congrArg some (plain_callSignature ps span span')
  | ctorSig => exact congrArg some (plain_constructSignature ps span span')
  | interface isDeclare => exact congrArg some (plain_interface isDeclare ps span span')
  | moduleBlock => exact congrArg some (plain_moduleBlock ps span span')
  | _ =>
    first
    | rfl
    | simp [typeRule, constructorType, typeReference, qualified, angled, typeQuery, typeArray, typeTuple,
        joinedTypes, conditionalType, indexedType, propertySignature, methodSignature, getterSignature,
        setterSignature, heritage, typeAlias, enumeration, enumMember, withDefault,
        plain_functionType ps span span', plain_commaList ps .formal span span',
        plain_list _ span span']

theorem plain_rule : plain (rule kind span' (Parts.plain ps)) = plain (rule kind span ps) := by
  have hgetD (o : Option (Write Unit)) : plain (o.getD (pure ())) = (o.map plain).getD (pure ()) := by
    cases o <;> rfl
  have horElse (o : Option (Write Unit)) (f : Unit → Option (Write Unit)) :
      (o.orElse f).map plain = (o.map plain).orElse fun _ => (f ()).map plain := by
    cases o <;> rfl
  rw [rule, rule, hgetD, hgetD]
  simp only [horElse, plain_expressionRule kind span span', plain_statementRule kind span span',
    plain_moduleRule kind span span', plain_markupRule kind span span', plain_typeRule kind span span']

theorem plain_printIn (slot : Slot) :
    plain (printIn slot kind span' (Parts.plain ps)) = plain (printIn slot kind span ps) := by
  unfold printIn
  split <;> split <;> simp [plain_rule _ span span']

end Tables

/-! ## Programs -/

mutual

theorem plain_partOf_spanless (slot : Slot) : ∀ n : Node,
    (partOf slot n.spanless).plain = (partOf slot n).plain
  | .mk kind span parts => by
    have hparts := plain_partsOf_spanless parts
    have hprint : plain (printIn slot kind ⟨0, 0⟩ (partsOf parts.spanless)) =
        plain (printIn slot kind span (partsOf parts)) := by
      rw [← plain_printIn kind ⟨0, 0⟩ ⟨0, 0⟩, hparts, plain_printIn]
    rw [Node.spanless, partOf, partOf, Part.plain, Part.plain, hprint, hparts, Node.spanless,
      Node.spanless, Children.spanless_spanless]

theorem plain_partsOf_spanless : ∀ parts : Children,
    Parts.plain (partsOf parts.spanless) = Parts.plain (partsOf parts)
  | .nil => rfl
  | .cons slot n rest => by
    rw [Children.spanless, partsOf, partsOf, Parts.plain, Parts.plain, plain_partOf_spanless,
      plain_partsOf_spanless]

end

theorem plain_items (interpreter : Option String) (span span' : Span) (ps : Parts) :
    plain (items interpreter span' (Parts.plain ps)) = plain (items interpreter span ps) := by
  cases interpreter <;> simp [items, Parts.plain_forM plain_statement]

/-- The programs agree up to spans; one may be a module and the other not. -/
structure SameUpToSpans (p q : Program) : Prop where
  interpreter : p.interpreter = q.interpreter
  body : p.body.spanless = q.body.spanless

/-- Without comments, programs that agree up to spans are printed alike. -/
theorem program_congr {p q : Program} (h : SameUpToSpans p q) (minify : Bool) :
    program p none minify = program q none minify := by
  have hparts : Parts.plain (partsOf p.body) = Parts.plain (partsOf q.body) := by
    rw [← plain_partsOf_spanless p.body, h.body, plain_partsOf_spanless]
  have hitems : plain (items p.interpreter p.span (partsOf p.body)) =
      plain (items q.interpreter q.span (partsOf q.body)) := by
    rw [← plain_items p.interpreter p.span p.span, hparts, h.interpreter, plain_items]
  have hplain (r : Program) : program r none minify =
      (plain (items r.interpreter r.span (partsOf r.body))).run ⟨minify, {}⟩ := rfl
  rw [hplain, hplain, hitems]

end AwaitCalls.Print
