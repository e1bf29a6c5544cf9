/-!
# Kinds of syntax nodes

What a node is, apart from its place in the text and its parts. A kind carries only plain data:
names, operators, literal spellings and modifiers.
-/
namespace AwaitCalls.Syntax

/-- Operators between two operands. -/
inductive BinaryOp
  | eq | notEq | strictEq | strictNotEq | lt | ltEq | gt | gtEq
  | shiftLeft | shiftRight | shiftRightZero | add | sub | mul | div | mod
  | bitOr | bitXor | bitAnd | logicalOr | logicalAnd | isIn | instanceOf | power | nullish
deriving DecidableEq, Repr, Inhabited

namespace BinaryOp

def text : BinaryOp → String
  | eq => "==" | notEq => "!=" | strictEq => "===" | strictNotEq => "!=="
  | lt => "<" | ltEq => "<=" | gt => ">" | gtEq => ">="
  | shiftLeft => "<<" | shiftRight => ">>" | shiftRightZero => ">>>"
  | add => "+" | sub => "-" | mul => "*" | div => "/" | mod => "%"
  | bitOr => "|" | bitXor => "^" | bitAnd => "&"
  | logicalOr => "||" | logicalAnd => "&&" | isIn => "in" | instanceOf => "instanceof"
  | power => "**" | nullish => "??"

/-- How tightly the operator binds; a higher number binds tighter. -/
def precedence : BinaryOp → Nat
  | nullish | logicalOr => 1
  | logicalAnd => 2
  | bitOr => 3
  | bitXor => 4
  | bitAnd => 5
  | eq | notEq | strictEq | strictNotEq => 6
  | lt | ltEq | gt | gtEq | isIn | instanceOf => 7
  | shiftLeft | shiftRight | shiftRightZero => 8
  | add | sub => 9
  | mul | div | mod => 10
  | power => 11

/-- The operator that a punctuator spells. `in` and `instanceof` are words and not among them. -/
def ofPunct? : String → Option BinaryOp
  | "==" => some eq | "!=" => some notEq | "===" => some strictEq | "!==" => some strictNotEq
  | "<" => some lt | "<=" => some ltEq | ">" => some gt | ">=" => some gtEq
  | "<<" => some shiftLeft | ">>" => some shiftRight | ">>>" => some shiftRightZero
  | "+" => some add | "-" => some sub | "*" => some mul | "/" => some div | "%" => some mod
  | "|" => some bitOr | "^" => some bitXor | "&" => some bitAnd
  | "||" => some logicalOr | "&&" => some logicalAnd | "**" => some power | "??" => some nullish
  | _ => none

/-- Is the operator a word, which needs blanks around it? -/
def isWord : BinaryOp → Bool
  | isIn | instanceOf => true
  | _ => false

end BinaryOp

/-- `=` or a compound assignment such as `+=`. -/
inductive AssignOp
  | plain
  | compound (op : BinaryOp)
deriving DecidableEq, Repr, Inhabited

namespace AssignOp

def text : AssignOp → String
  | plain => "="
  | compound op => op.text ++ "="

def ofPunct? : String → Option AssignOp
  | "=" => some plain
  | "+=" => some (compound .add) | "-=" => some (compound .sub) | "*=" => some (compound .mul)
  | "/=" => some (compound .div) | "%=" => some (compound .mod) | "**=" => some (compound .power)
  | "<<=" => some (compound .shiftLeft) | ">>=" => some (compound .shiftRight)
  | ">>>=" => some (compound .shiftRightZero) | "|=" => some (compound .bitOr)
  | "^=" => some (compound .bitXor) | "&=" => some (compound .bitAnd)
  | "&&=" => some (compound .logicalAnd) | "||=" => some (compound .logicalOr)
  | "??=" => some (compound .nullish)
  | _ => none

end AssignOp

inductive UnaryOp
  | minus | plus | not | tilde | typeOf | void | delete
deriving DecidableEq, Repr, Inhabited

namespace UnaryOp

def text : UnaryOp → String
  | minus => "-" | plus => "+" | not => "!" | tilde => "~"
  | typeOf => "typeof" | void => "void" | delete => "delete"

def isWord : UnaryOp → Bool
  | typeOf | void | delete => true
  | _ => false

end UnaryOp

inductive UpdateOp
  | increment | decrement
deriving DecidableEq, Repr, Inhabited

def UpdateOp.text : UpdateOp → String
  | increment => "++" | decrement => "--"

inductive VarKind
  | var | lexical | const
deriving DecidableEq, Repr, Inhabited

def VarKind.text : VarKind → String
  | .var => "var" | .lexical => "let" | .const => "const"

inductive Access
  | publicly | protectedly | privately
deriving DecidableEq, Repr, Inhabited

def Access.text : Access → String
  | .publicly => "public" | .protectedly => "protected" | .privately => "private"

inductive MethodKind
  | method | getter | setter
deriving DecidableEq, Repr, Inhabited

/-- Modifiers of a class member or of a parameter that declares a property. -/
structure Modifiers where
  access : Option Access := none
  isStatic : Bool := false
  isAbstract : Bool := false
  isOptional : Bool := false
  isOverride : Bool := false
  isReadonly : Bool := false
  isDeclare : Bool := false
  isDefinite : Bool := false
deriving DecidableEq, Repr, Inhabited

/-- When an imported module is evaluated. -/
inductive ImportPhase
  | evaluation | source | defer
deriving DecidableEq, Repr, Inhabited

/-- A modifier of a mapped type: absent, written, or written with a sign. -/
inductive MappedModifier
  | absent | present | plus | minus
deriving DecidableEq, Repr, Inhabited

/-- Which declaration a `namespace` node spells. -/
inductive NamespaceKeyword
  | moduleWord | namespaceWord | globalWord
deriving DecidableEq, Repr, Inhabited

inductive Kind
  -- statements and declarations
  | block | empty | debugger | withStmt | returnStmt | labeled | breakStmt | continueStmt
  | ifStmt | switchStmt | switchCase | throwStmt | tryStmt | catchClause
  | whileStmt | doWhile | forStmt | forIn | forOf (isAwait : Bool) | exprStmt
  | varDecl (kind : VarKind) (isDeclare : Bool) | declarator (isDefinite : Bool)
  | usingDecl (isAwait : Bool) | fnDecl (isDeclare : Bool) | classDecl (isDeclare : Bool)
  -- functions and classes
  | function (isAsync isGenerator : Bool) | param | paramProp (mods : Modifiers)
  | classBody (isAbstract : Bool) | ctor (mods : Modifiers)
  | method (kind : MethodKind) (mods : Modifiers) | property (mods : Modifiers)
  | autoAccessor (mods : Modifiers) | staticBlock | emptyMember
  | indexSignature (mods : Modifiers) | decorator
  -- expressions
  | this | array | hole | object | spread | keyValue | assignProp | getter | setter | methodProp
  | fnExpr | unary (op : UnaryOp) | update (op : UpdateOp) (isPrefix : Bool)
  | binary (op : BinaryOp) | assign (op : AssignOp) | member | superProp | cond
  | call | new (hasArgs : Bool) | seq | ident (name : String) | name (text : String)
  | str (value : List Nat) (raw : String) | bool (value : Bool) | null
  | num (raw : String) | bigInt (raw : String) | regex (body flags : String)
  | template | quasi (raw : String) | tagged | arrow (isAsync : Bool) | classExpr
  | yield (isDelegate : Bool) | newTarget | importMeta | await | paren | privateName (text : String)
  | optChain (isOptional : Bool) | optCall | super | importCallee (phase : ImportPhase)
  | computed | invalid
  -- patterns
  | binding (name : String) (isOptional : Bool) | arrayPat (isOptional : Bool) | rest
  | objectPat (isOptional : Bool) | assignPat | keyValuePat | assignPatProp
  -- markup
  | jsxElement | jsxFragment | jsxOpening (isSelfClosing : Bool) | jsxClosing
  | jsxAttr | jsxExprContainer | jsxEmptyExpr | jsxSpreadChild | jsxText (raw : String)
  | jsxMember | jsxNamespaced | jsxStr (raw : String)
  -- modules
  | importDecl (isTypeOnly : Bool) (phase : ImportPhase) | importNamed (isTypeOnly : Bool)
  | importDefault | importNamespace
  | exportDecl | exportNamed (isTypeOnly : Bool) | exportSpecifier (isTypeOnly : Bool)
  | exportNamespace | exportAll (isTypeOnly : Bool) | exportDefaultDecl | exportDefaultExpr
  | importEquals (isExport isTypeOnly : Bool) | externalRef | exportAssignment | namespaceExport
  -- types
  | typeAnn | typeKeyword (text : String) | typeThis | typeFn | typeCtor (isAbstract : Bool)
  | typeRef | qualified | typeArgs | typeParams
  | typeParam (name : String) (isIn isOut isConst : Bool)
  | typeQuery | typeLit | typeArray | typeTuple | tupleElement | typeOptional | typeRest
  | typeUnion | typeIntersection | typeConditional | typeInfer | typeParen
  | typeOperator (op : String) | typeIndexed | typeMapped (readonlyMod optionalMod : MappedModifier)
  | typeLiteral | typeTemplate | typePredicate (isAsserts : Bool) | typeImport
  | propertySig (isReadonly isComputed isOptional : Bool) | methodSig (isComputed isOptional : Bool)
  | getterSig (isComputed : Bool) | setterSig (isComputed : Bool) | callSig | ctorSig
  | typeAssertion | constAssertion | nonNull | asExpr | satisfies | instantiation
  | interface (isDeclare : Bool) | heritage | typeAlias (isDeclare : Bool)
  | enum (isDeclare isConst : Bool) | enumMember
  | namespaceDecl (isDeclare : Bool) (keyword : NamespaceKeyword) | moduleBlock
deriving DecidableEq, Inhabited

/-- Is it a pattern that binds one name? -/
def Kind.isBinding : Kind → Bool
  | .binding _ _ => true
  | _ => false

end AwaitCalls.Syntax
