import AwaitCalls.Text.Quoted

/-!
# What can be wrong with a program text

Each cause of a syntax error is a constructor; the wording stands in `Fault.message` alone.
-/
namespace AwaitCalls.Syntax

inductive Fault
  -- tokens
  | expected (wanted found : String)
  | unexpected (found wanted : String)
  | expectedIdent
  | identifierExpected
  | expectedStatementEnd
  | expectedSemicolon
  | expectedExpression
  | trailingComma
  | endOfText
  | unexpectedChar (c : Char)
  | unterminatedString
  | unterminatedTemplate
  | unterminatedComment
  | badEscape (wanted : String)
  | invalidEscape
  | unclosedEscape
  | mergeConflict
  | unterminatedRegex
  | expectedUnicodeEscape
  | invalidIdentChar
  | escapeInReservedWord (word : String)
  | identAfterNumber
  | expectedDigit (base : Nat)
  | numericSeparator
  | exponentEnd
  | legacyOctal
  | legacyDecimal
  | octalLiteral
  | legacyCommentInModule
  | unknownRegexFlags
  | repeatedRegexFlag (c : Char)
  -- expressions
  | unaryBeforePower
  | nullishMix
  | arrowNotAllowed
  | lineBreakBeforeArrow
  | emptyParens
  | spreadInParens
  | assignmentTarget
  | invalidAssignTarget
  | notAPattern
  | restNotLast
  | restInitializer
  | restWithoutIdent
  | commaAfterRest
  | restParamNotLast
  | restOptional
  | cannotAssign
  | commaInComputedKey
  | shorthandDefault
  | taggedOptionalChain
  | newOptionalChain
  | newTargetOutside
  | superNotAllowed
  | superCallNotAllowed
  | importArguments
  | importAlone
  | deleteIdentStrict
  | deleteOperand
  | awaitOutsideAsync
  | awaitStar
  | awaitAsIdent
  | awaitInParams
  | yieldInParams
  | evalOrArguments
  | argumentsInStrict
  | reservedInStrict (word : String)
  | argumentsInField
  -- statements
  | constWithoutInit
  | patternWithoutInit
  | importExportOutside
  | breakOutside
  | breakLabel
  | continueOutside
  | jumpAcrossFunction
  | declNotAllowed
  | returnOutside
  | lineBreakAfterThrow
  | repeatedDefault
  | repeatedLabel (name : String)
  | labelledFunctionStrict
  | labelledGenerator
  | withInStrict
  | withInTyped
  | emptyVarList
  | oneBinding
  | initInForHead
  | forAwaitHead
  | forOfAsync
  | forOfTypeAnn
  | forInPattern
  | useStrictWithPatterns
  | usingNotEnabled
  | usingInForIn
  | usingWithoutInit
  -- classes and objects
  | getterParams
  | setterParams
  | restInSetter
  | repeatedConstructor
  | constructorGenerator
  | constructorAsync
  | constructorAccessor
  | constructorField
  | privateConstructor
  | decoratorOnExport
  | exportAfterDecorator
  -- modules
  | exportNeedsFrom (name : String)
  | importStringBinding (name : String)
  | exportStringBinding
  | typeOnNamedImport
  | typeOnNamedExport
  | repeatedDecorators
  -- markup
  | jsxClosingTag (name : String)
  | jsxClosingFragment
  | jsxTextToken (shown escaped : String)
  | jsxEmptyAttr
  | jsxAttrValue
  -- types
  | optionalWithInit
  | optionalPattern
  | parameterProperty
  | parameterPropertyPattern
  | overrideWithoutBase
  | repeatedModifier (name : String)
  | modifierOrder (first second : String)
  | modifierWith (first second : String)
  | modifierHere
  | typeParamModifier (name : String)
  | varianceModifier (name : String)
  | constModifier
  | declareModifier
  | bodyInAmbient
  | defaultInSignature
  | abstractBody
  | abstractInit
  | abstractOutside
  | privateAccess
  | privateModifier (name : String)
  | constructorReturnType
  | constructorTypeParams
  | constructorModifier (name : String)
  | readonlyMethod
  | manyBases
  | repeatedExtends
  | repeatedImplements
  | lateExtends
  | emptyTypeArgs
  | emptyTypeParams
  | className
  | interfaceName
  | privateInInterface
  | interfaceBase
  | enumNumericName
  | enumComputedName
  | indexSignatureParams
  | requiredAfterOptional
  | annotationAfterDefault
  | importTypeName
  | nonNullNotAllowed (name : String)
  | accessorReadonly
  | superOptional
  | declareInAmbient
  | optionalMember
  | asyncModifier
  | bindingNameInUsing
deriving DecidableEq, Repr, Inhabited

namespace Fault

/-- The wording of a fault. -/
def message : Fault → String
  | expected wanted found => "Expected '" ++ wanted ++ "', got '" ++ found ++ "'"
  | unexpected found wanted => "Unexpected token `" ++ found ++ "`. Expected " ++ wanted
  | expectedIdent => "Expected ident"
  | identifierExpected => "Expected an identifier"
  | expectedStatementEnd => "Expected ';', '\x7d' or <eof>"
  | expectedSemicolon => "Expected a semicolon"
  | expectedExpression => "Expression expected"
  | trailingComma => "Trailing comma is not allowed"
  | endOfText => "Unexpected eof"
  | unexpectedChar c => "Unexpected character " ++ Text.quotedChar c
  | unterminatedString => "Unterminated string constant"
  | unterminatedTemplate => "Unterminated template"
  | unterminatedComment => "Unterminated block comment"
  | badEscape wanted => "Bad character escape sequence, expected " ++ wanted
  | invalidEscape => "Invalid string escape"
  | unclosedEscape => "Invalid unicode escape"
  | mergeConflict => "Merge conflict marker encountered."
  | unterminatedRegex => "Unterminated regexp literal"
  | expectedUnicodeEscape => "Expected unicode escape"
  | invalidIdentChar => "Invalid character in identifier"
  | escapeInReservedWord w => "Unexpected escape sequence in reserved word: " ++ w
  | identAfterNumber => "Identifier cannot follow number"
  | expectedDigit base =>
    if base = 2 then "Expected a binary digit"
    else if base = 8 then "Expected an octal digit"
    else if base = 16 then "Expected a hexadecimal digit"
    else "Expected a decimal digit"
  | numericSeparator => "A numeric separator is only allowed between two digits"
  | legacyOctal => "Legacy octal escape is not permitted in strict mode"
  | exponentEnd => "Expected +, - or decimal digit after e"
  | legacyDecimal => "Legacy decimal escape is not permitted in strict mode"
  | octalLiteral =>
    "Legacy octal literals are not available when targeting ECMAScript 5 and higher"
  | legacyCommentInModule => "Legacy comments cannot be used in module code"
  | unknownRegexFlags => "Unknown regular expression flags."
  | repeatedRegexFlag c => "Duplicated regular expression flag '" ++ String.singleton c ++ "'."
  | unaryBeforePower => "'**' cannot be applied to unary/await expression."
  | nullishMix =>
    "Nullish coalescing operator(??) requires parens when mixing with logical operators"
  | arrowNotAllowed => "An arrow function is not allowed here"
  | lineBreakBeforeArrow => "Unexpected line break between arrow head and arrow"
  | emptyParens => "Parenthesized expression cannot be empty"
  | spreadInParens => "Parenthesized expression cannot contain spread operator"
  | assignmentTarget =>
    "The left-hand side of an assignment expression must be a variable or a property access."
  | invalidAssignTarget => "Invalid assignment target"
  | notAPattern => "Not a pattern"
  | restNotLast => "Rest element must be final element"
  | restInitializer => "A rest parameter cannot have an initializer"
  | restWithoutIdent => "`...` must be followed by an identifier in declaration contexts"
  | commaAfterRest => "Trailing comma isn't permitted after a rest element"
  | restParamNotLast => "A rest parameter must be last in a parameter list"
  | restOptional => "A rest parameter cannot be optional"
  | cannotAssign => "Cannot assign to this"
  | commaInComputedKey => "A comma expression is not allowed in a computed property name"
  | shorthandDefault => "assignment property is invalid syntax"
  | taggedOptionalChain => "Tagged template literal is not allowed in optional chain."
  | newOptionalChain => "Constructor in/after an optional chaining is not allowed."
  | newTargetOutside =>
    "'new.target' is only allowed in the body of a function declaration, function expression, or class."
  | superNotAllowed => "Invalid access to super"
  | superCallNotAllowed => "Invalid `super()`"
  | importArguments => "`import()` requires exactly one or two arguments"
  | importAlone => "Invalid import"
  | deleteIdentStrict => "'delete' cannot be called on an identifier in strict mode"
  | deleteOperand => "The operand of a 'delete' operator must be a property reference."
  | awaitOutsideAsync => "await isn't allowed in non-async function"
  | awaitStar =>
    "`await*` has been removed from the async functions proposal. Use Promise.all() instead."
  | awaitAsIdent => "`await` cannot be used as an identifier in an async context"
  | awaitInParams => "`await` expressions cannot be used in a parameter initializer."
  | yieldInParams => "'yield' cannot be used as a parameter within generator"
  | evalOrArguments =>
    "'eval' and 'arguments' cannot be used as a binding identifier in strict mode"
  | argumentsInStrict => "Invalid use of 'arguments' in strict mode"
  | reservedInStrict w => "`" ++ w ++ "` cannot be used as an identifier in strict mode"
  | argumentsInField => "'arguments' is only allowed in functions and class methods"
  | constWithoutInit => "'const' declarations must be initialized"
  | patternWithoutInit => "Destructuring bindings require initializers"
  | importExportOutside => "'import', and 'export' cannot be used outside of module code"
  | breakOutside =>
    "A 'break' statement can only be used within an enclosing iteration or switch statement"
  | breakLabel => "A 'break' statement can only jump to a label of an enclosing statement"
  | continueOutside =>
    "A 'continue' statement can only jump to a label of an enclosing iteration statement"
  | jumpAcrossFunction => "Jump target cannot cross function boundary"
  | declNotAllowed => "Declaration is not allowed"
  | returnOutside => "Return statement is not allowed here"
  | lineBreakAfterThrow => "LineBreak cannot follow 'throw'"
  | repeatedDefault => "A switch block cannot have multiple defaults"
  | repeatedLabel name => "Label " ++ name ++ " is already declared"
  | labelledFunctionStrict => "Function cannot be labelled in strict mode"
  | labelledGenerator => "Generator or async function cannot be labelled"
  | withInStrict => "With statement are not allowed in strict mode"
  | withInTyped =>
    "The 'with' statement is not supported. All symbols in a 'with' block will have type 'any'."
  | emptyVarList => "Variable declaration list cannot be empty"
  | oneBinding => "Expected one variable binding"
  | initInForHead => "Unexpected initializer in for in/of loop"
  | forAwaitHead => "for await syntax is valid only for for-of statement"
  | forOfAsync => "The left-hand side of a `for...of` statement may not be `async`"
  | forOfTypeAnn =>
    "The left-hand side of a 'for...of' statement cannot use a type annotation"
  | forInPattern =>
    "The left-hand side of a 'for...in' statement cannot be a destructuring pattern"
  | useStrictWithPatterns =>
    "Illegal 'use strict' directive in function with non-simple parameter list."
  | usingNotEnabled =>
    "Using declaration is not enabled. Set jsc.parser.explicitResourceManagement to true"
  | usingInForIn => "Using declaration is not allowed in for-in loop"
  | usingWithoutInit => "Using declaration requires initializer"
  | getterParams => "A `get` accessor cannot have parameters"
  | setterParams => "A `set` accessor must have exactly one parameter"
  | restInSetter => "Rest pattern is not allowed in setter"
  | repeatedConstructor => "A class can only have one constructor"
  | constructorGenerator => "A constructor cannot be generator"
  | constructorAsync => "Constructor can't be an async function"
  | constructorAccessor => "Class constructor can't be an accessor."
  | constructorField => "Classes may not have a non-static field named 'constructor'"
  | privateConstructor => "Classes can't have a private field named '#constructor'."
  | decoratorOnExport =>
    "Using the export keyword between a decorator and a class is not allowed. Please use " ++
      "`export @dec class` instead."
  | exportAfterDecorator => "`export` is not allowed here"
  | exportNeedsFrom name => "`" ++ name ++ "` cannot be used without `from` clause"
  | importStringBinding name =>
    "A string literal cannot be used as an imported binding.\n- Did you mean `import \x7b \"" ++ name ++
      "\" as foo \x7d`?"
  | exportStringBinding =>
    "A string literal cannot be used as an exported binding without `from`."
  | typeOnNamedImport =>
    "The 'type' modifier cannot be used on a named import when 'import type' is used on its import " ++
      "statement."
  | typeOnNamedExport =>
    "The 'type' modifier cannot be used on a named export when 'export type' is used on its export " ++
      "statement."
  | repeatedDecorators =>
    "Decorators may not appear after `export` or `export default` if they also appear before " ++
      "`export`."
  | jsxClosingTag name => "Expected corresponding JSX closing tag for <" ++ name ++ ">"
  | jsxClosingFragment => "Expected corresponding closing tag for JSX fragment"
  | jsxTextToken shown escaped =>
    "Unexpected token. Did you mean `" ++ shown ++ "` or `" ++ escaped ++ "`?"
  | jsxEmptyAttr => "JSX attributes must only be assigned a non-empty expression"
  | jsxAttrValue => "JSX value should be either an expression or a quoted JSX text"
  | optionalPattern =>
    "A binding pattern parameter cannot be optional in an implementation signature."
  | optionalWithInit => "Parameter cannot have question mark and initializer"
  | parameterProperty => "A parameter property is only allowed in a constructor implementation"
  | parameterPropertyPattern =>
    "Typescript parameter property must be an identifier or assignment pattern"
  | overrideWithoutBase =>
    "This member cannot have an 'override' modifier because its containing class does not extend " ++
      "another class."
  | repeatedModifier name => "'" ++ name ++ "' modifier already seen."
  | modifierOrder first second =>
    "'" ++ first ++ "' modifier must precede '" ++ second ++ "' modifier."
  | modifierWith first second =>
    "'" ++ first ++ "' modifier cannot be used with '" ++ second ++ "' modifier."
  | modifierHere => "Modifiers cannot appear here"
  | typeParamModifier name => "'" ++ name ++ "' modifier cannot appear on a type parameter"
  | varianceModifier name =>
    "'" ++ name ++
      "' modifier can only appear on a type parameter of a class, interface or type alias"
  | constModifier =>
    "'const' modifier can only appear on a type parameter of a function, method or class"
  | declareModifier => "`declare` modifier cannot appear on class elements of this kind"
  | bodyInAmbient => "An implementation cannot be declared in ambient contexts"
  | defaultInSignature =>
    "A parameter initializer is only allowed in a function or constructor implementation"
  | abstractBody => "Abstract method cannot have an implementation."
  | abstractInit => "Abstract property cannot have an initializer."
  | abstractOutside => "`abstract` modifier can only appear on a class or method declaration"
  | privateAccess => "An accessibility modifier cannot be used with a private identifier."
  | privateModifier name => "'" ++ name ++ "' modifier cannot be used with a private identifier"
  | constructorReturnType => "Type annotation cannot appear on a constructor declaration"
  | constructorTypeParams => "Type parameters cannot appear on a constructor declaration"
  | constructorModifier name => "'" ++ name ++ "' modifier cannot appear on a constructor declaration"
  | readonlyMethod => "A method cannot be readonly"
  | manyBases => "Classes can only extend a single class"
  | repeatedExtends => "'extends' clause already seen."
  | repeatedImplements => "'implements' clause already seen."
  | lateExtends => "'extends' clause must precede 'implements' clause."
  | emptyTypeArgs => "Type argument list cannot be empty."
  | emptyTypeParams => "Type parameter list cannot be empty"
  | className => "Invalid class name"
  | interfaceName => "interface name is invalid"
  | privateInInterface => "private names are not allowed in interface"
  | interfaceBase =>
    "An interface can only extend an identifier/qualified-name with optional type arguments."
  | enumNumericName => "An enum member cannot have a numeric name"
  | enumComputedName => "Computed property names are not allowed in enums"
  | indexSignatureParams => "An index signature must have exactly one parameter"
  | requiredAfterOptional => "A required element cannot follow an optional element."
  | annotationAfterDefault =>
    "Type annotations must come before default assignments, e.g. instead of `age = 25: number` use " ++
      "`age: number = 25`"
  | importTypeName => "literal in an import type should be string literal"
  | nonNullNotAllowed name =>
    "Typescript non-null assertion operator is not allowed with '" ++ name ++ "'"
  | accessorReadonly => "A getter or a setter cannot be readonly"
  | superOptional => "Super call cannot be optional"
  | declareInAmbient => "`declare` modifier not allowed for code already in an ambient context"
  | optionalMember => "An object member cannot be declared optional"
  | asyncModifier => "`async` modifier cannot be used here"
  | bindingNameInUsing => "Using declaration only allows identifiers"

end Fault

/-- A fault and the place in the text that it is reported at. -/
structure SyntaxError where
  fault : Fault
  pos : Nat
deriving DecidableEq, Repr, Inhabited

end AwaitCalls.Syntax
