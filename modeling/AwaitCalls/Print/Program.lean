import AwaitCalls.Print.Markup
import AwaitCalls.Print.Modules
import AwaitCalls.Print.Types

/-!
# Printing a program

`partOf` prepares a node and all its parts for printing, by recursion on the tree; which rule prints a
node is decided by its kind in `rule`. Around the rule stand the comments before the node and, for an
expression or a pattern, those after it.
-/
namespace AwaitCalls.Print

open AwaitCalls.Syntax AwaitCalls.Text

/-- Rules for expressions. -/
def expressionRule (kind : Kind) (span : Span) (ps : Parts) : Option (Write Unit) :=
  match kind with
  | .this => text "this"
  | .ident name | .name name => text name
  | .str value raw => some do text (stringText (← isMinified) value raw)
  | .bool b => text (if b then "true" else "false")
  | .null => text "null"
  | .num raw => some do text (numberText (← isMinified) raw)
  | .bigInt raw => some do text (bigIntText (← isMinified) raw)
  | .regex body flags => text ("/" ++ body ++ "/" ++ flags)
  | .privateName name => text ("#" ++ name)
  | .super => text "super"
  | .newTarget => text "new.target"
  | .importMeta => text "import.meta"
  | .importCallee .evaluation => text "import"
  | .importCallee .source => text "import.source"
  | .importCallee .defer => text "import.defer"
  | .template => template ps false
  | .tagged => taggedTemplate ps
  | .array => array ps span
  | .object => object ps span
  | .spread => spread ps
  | .keyValue => keyValue ps
  | .assignProp => some do
    Parts.print ps .key
    text "="
    Parts.print ps .value
  | .methodProp => methodProperty ps
  | .getter => getter ps
  | .setter => setter ps
  | .computed => some do
    text "["
    Parts.print ps .expr
    text "]"
  | .member => member ps
  | .superProp => some do
    Parts.print ps .object
    dotted ps
  | .optChain isOptional => optionalChain isOptional ps
  | .call => call ps span
  | .new hasArgs => newWith hasArgs false ps span
  | .unary op => unary op ps
  | .update op isPrefix => update op isPrefix ps
  | .binary op => binary op ps
  | .assign op => assign op ps
  | .cond => conditional ps
  | .seq => commaList ps .element span
  | .paren => inParens (Parts.print ps .expr)
  | .await => awaitExpr ps
  | .yield isDelegate => yieldExpr isDelegate ps
  | .fnExpr => namedFunction space ps
  | .arrow isAsync => arrow isAsync ps span
  | .classExpr => klass false ps
  | .asExpr => asserted "as" ps
  | .satisfies => asserted "satisfies" ps
  | .constAssertion => constAssertion ps
  | .typeAssertion => typeAssertion ps
  | .nonNull => nonNull ps
  | .instantiation => instantiation ps
  | .jsxElement => jsxElement ps
  | .jsxFragment => jsxFragment ps
  | .binding name isOptional => binding name isOptional ps
  | .arrayPat isOptional => arrayPattern isOptional ps span
  | .objectPat isOptional => objectPattern isOptional ps span
  | .rest => restPattern ps
  | .assignPat => withDefault (Parts.print ps .left) (Parts.print ps .right)
  | .keyValuePat => keyValue ps
  | .assignPatProp => assignPatternProperty ps
  | _ => none

/-- Rules for statements, functions and classes. -/
def statementRule (kind : Kind) (span : Span) (ps : Parts) : Option (Write Unit) :=
  match kind with
  | .block => block ps span
  | .empty => text ";"
  | .debugger => text "debugger;"
  | .exprStmt => expressionStatement ps span
  | .varDecl kind isDeclare => variableList kind isDeclare ps span
  | .usingDecl isAwait => usingVariables isAwait ps span
  | .declarator _ => declarator ps
  | .ifStmt => ifStatement ps
  | .switchStmt => switchStatement ps span
  | .switchCase => switchCase ps span
  | .tryStmt => tryStatement ps
  | .catchClause => catchClause ps
  | .whileStmt => whileLoop ps
  | .doWhile => doLoop ps
  | .forStmt => forLoop ps
  | .forIn => forIn ps
  | .forOf isAwait => forOf isAwait ps
  | .breakStmt => jump "break" ps
  | .continueStmt => jump "continue" ps
  | .returnStmt => jumpWith "return" ps
  | .throwStmt => jumpWith "throw" ps
  | .labeled => labeled ps
  | .withStmt => withStatement ps
  | .fnDecl isDeclare => some do
    if isDeclare then word "declare"
    namedFunction optSpace ps
  | .function _ _ => functionTail ps span
  | .param => param ps span
  | .paramProp mods => paramProperty mods ps span
  | .classDecl isDeclare => some do
    if isDeclare then word "declare"
    klass false ps
  | .decorator => decorator ps
  | .method kind mods => method kind mods ps
  | .property mods => field false mods ps span
  | .autoAccessor mods => field true mods ps span
  | .ctor mods => constructor mods ps span
  | .staticBlock => some do
    text "static"
    Parts.print ps .body
  | .emptyMember => text ";"
  | .indexSignature mods => indexSignature mods ps span
  | _ => none

/-- Rules for imports and exports. -/
def moduleRule (kind : Kind) (span : Span) (ps : Parts) : Option (Write Unit) :=
  match kind with
  | .importDecl isTypeOnly phase => importDecl isTypeOnly phase ps span
  | .importNamed isTypeOnly => renamed isTypeOnly (Parts.get? ps .imported) (Parts.get? ps .local)
  | .importDefault => Parts.print ps .local
  | .importNamespace => importNamespace ps
  | .exportNamed isTypeOnly => exportNamed isTypeOnly ps span
  | .exportSpecifier isTypeOnly =>
    renamed isTypeOnly (Parts.get? ps .local) (Parts.get? ps .exported)
  | .exportNamespace => exportNamespace ps
  | .exportAll isTypeOnly => exportAll isTypeOnly ps
  | .exportDecl => exportDecl ps
  | .exportDefaultDecl => exportDefaultDecl ps
  | .exportDefaultExpr => exportDefaultExpr ps
  | .importEquals isExport isTypeOnly => importEquals isExport isTypeOnly ps
  | .externalRef => externalReference ps
  | .exportAssignment => exportAssignment (Parts.print ps .expr)
  | .namespaceExport => exportAssignment (Parts.print ps .ident)
  | _ => none

/-- Rules for markup. -/
def markupRule (kind : Kind) (span : Span) (ps : Parts) : Option (Write Unit) :=
  match kind with
  | .jsxOpening isSelfClosing => jsxOpening isSelfClosing ps span
  | .jsxClosing => jsxClosing ps
  | .jsxAttr => jsxAttr ps
  | .jsxExprContainer => jsxContainer ps span
  | .jsxSpreadChild => inBraces (spread ps)
  | .jsxText raw => text raw
  | .jsxStr raw => jsxString raw
  | .jsxMember => some do
    Parts.print ps .object
    text "."
    Parts.print ps .property
  | .jsxNamespaced => some do
    Parts.print ps .left
    text ":"
    Parts.print ps .right
  | _ => none

/-- Rules for types. -/
def typeRule (kind : Kind) (span : Span) (ps : Parts) : Option (Write Unit) :=
  match kind with
  | .typeAnn => Parts.print ps .typeAnn
  | .typeKeyword name => text name
  | .typeThis => text "this"
  | .typeFn => functionType ps span
  | .typeCtor isAbstract => constructorType isAbstract ps span
  | .typeRef => typeReference ps
  | .qualified => qualified ps
  | .typeArgs | .typeParams => angled ps span
  | .typeParam name isIn isOut isConst => typeParam name isIn isOut isConst ps
  | .typeQuery => typeQuery ps
  | .typeLit => typeMembers ps span
  | .typeArray => typeArray ps
  | .typeTuple => typeTuple ps span
  | .tupleElement => tupleElement ps
  | .typeOptional => some do
    Parts.print ps .typeAnn
    text "?"
  | .typeRest => some do
    text "..."
    Parts.print ps .typeAnn
  | .typeUnion => joinedTypes "|" ps span
  | .typeIntersection => joinedTypes "&" ps span
  | .typeConditional => conditionalType ps
  | .typeInfer => some do
    word "infer"
    Parts.print ps .param
  | .typeParen => inParens (Parts.print ps .typeAnn)
  | .typeOperator op => some do
    word op
    Parts.print ps .typeAnn
  | .typeIndexed => indexedType ps
  | .typeMapped readonlyMod optionalMod => mappedType readonlyMod optionalMod ps
  | .typeLiteral => Parts.print ps .typeAnn
  | .typeTemplate => template ps false
  | .typePredicate isAsserts => typePredicate isAsserts ps
  | .typeImport => typeImport ps
  | .propertySig isReadonly isComputed isOptional => propertySignature isReadonly isComputed isOptional ps
  | .methodSig isComputed isOptional => methodSignature isComputed isOptional ps span
  | .getterSig isComputed => getterSignature isComputed ps
  | .setterSig isComputed => setterSignature isComputed ps
  | .callSig => callSignature ps span
  | .ctorSig => constructSignature ps span
  | .interface isDeclare => interface isDeclare ps span
  | .heritage => heritage ps
  | .typeAlias isDeclare => typeAlias isDeclare ps
  | .enum isDeclare isConst => enumeration isDeclare isConst ps span
  | .enumMember => enumMember ps
  | .namespaceDecl isDeclare keyword => namespaceDecl isDeclare keyword ps
  | .moduleBlock => moduleBlock ps span
  | _ => none

/-- The rule for a kind of node. A kind without a rule of its own prints nothing. -/
def rule (kind : Kind) (span : Span) (ps : Parts) : Write Unit :=
  ((expressionRule kind span ps).orElse fun _ =>
    (statementRule kind span ps).orElse fun _ =>
      (moduleRule kind span ps).orElse fun _ =>
        (markupRule kind span ps).orElse fun _ => typeRule kind span ps).getD (pure ())

/-- Is it a kind of pattern? -/
def isPattern : Kind → Bool
  | .binding _ _ | .arrayPat _ | .objectPat _ | .rest | .assignPat => true
  | _ => false

/-- Is it a kind of expression? -/
def isExpression : Kind → Bool
  | .this | .ident _ | .str _ _ | .bool _ | .null | .num _ | .bigInt _ | .regex _ _ | .template
  | .tagged | .array | .object | .fnExpr | .classExpr | .arrow _ | .unary _ | .update _ _ | .binary _
  | .assign _ | .cond | .member | .superProp | .optChain _ | .call | .new _ | .seq | .paren | .await
  | .yield _ | .newTarget | .importMeta | .privateName _ | .jsxElement | .jsxFragment | .asExpr
  | .satisfies | .constAssertion | .typeAssertion | .nonNull | .instantiation => true
  | _ => false

/-- May comments that follow the node on its line stay behind it? They may behind expressions and
patterns, but not behind names, keys and types. -/
def keepsTrailing (slot : Slot) (kind : Kind) : Bool :=
  if isPattern kind then slot ≠ .key && slot ≠ .target && slot ≠ .formal
  else
    match slot with
    | .key | .ident | .label | .local | .imported | .exported | .source | .property | .typeAnn
    | .target => false
    | _ => isExpression kind

/-- Does a node leave out the comments before it? -/
def dropsLeading : Kind → Bool
  | .withStmt | .breakStmt | .continueStmt | .autoAccessor _ | .importNamespace => true
  | _ => false

/-- Print a node in a slot, given its parts. -/
def printIn (slot : Slot) (kind : Kind) (span : Span) (ps : Parts) : Write Unit := do
  if !dropsLeading kind then leading span.lo
  match slot, kind with
  | .attr, .spread =>
    text "\x7b"
    rule kind span ps
    text "\x7d"
  | _, _ => rule kind span ps
  if keepsTrailing slot kind then trailing span.hi

mutual

/-- A node in a slot, ready to print. -/
def partOf (slot : Slot) : Node → Part
  | .mk kind span cs =>
    let ps := partsOf cs
    .mk slot (.mk kind span cs) (printIn slot kind span ps) ps

def partsOf : Children → Parts
  | .nil => []
  | .cons slot n rest => partOf slot n :: partsOf rest

end

/-- The items of a program, one after the other. -/
def items (interpreter : Option String) (span : Span) (ps : Parts) : Write Unit := do
  leading span.lo
  match interpreter with
  | some name =>
    text "#!"
    text name
    lineBreak
  | none => pure ()
  ps.forM statement
  trailing span.hi

/-- The text of a program, with the comments that are given. -/
def program (p : Program) (comments : Option Comments) (minify : Bool) : String :=
  let found := comments.getD {}
  let inOrder : Comments := ⟨found.leading.reverse, found.trailing.reverse⟩
  (items p.interpreter p.span (partsOf p.body)).run ⟨minify, inOrder⟩

end AwaitCalls.Print
