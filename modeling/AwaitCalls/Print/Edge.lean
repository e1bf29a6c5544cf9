import AwaitCalls.Syntax.Node

/-!
# Where expressions begin and end with a letter

A word next to an expression needs a space if the expression begins or ends with a letter or digit.
-/
namespace AwaitCalls.Print

open AwaitCalls.Syntax

mutual

/-- Does the printed node begin with a letter or digit? -/
def startsWithWord : Node → Bool
  | .mk kind _ parts =>
    match kind with
    | .ident _ | .binding _ _ | .name _ | .bool _ | .num _ | .null | .bigInt _ | .await | .fnExpr
    | .classExpr | .this | .yield _ | .new _ | .newTarget | .importMeta | .superProp | .super
    | .importCallee _ | .invalid => true
    | .unary op => op.isWord
    | .seq | .binary _ | .cond | .call | .member | .optChain _ | .optCall | .nonNull | .asExpr
    | .satisfies | .constAssertion | .instantiation | .tagged | .assignPat =>
      firstStartsWithWord parts
    | .assign _ => targetStartsWithWord parts
    | .update _ isPrefix => !isPrefix && firstStartsWithWord parts
    | .arrow isAsync => isAsync || onlyStartsWithWord parts
    | _ => false

/-- Does the first part begin with a letter or digit? -/
def firstStartsWithWord : Children → Bool
  | .nil => false
  | .cons _ n _ => startsWithWord n

/-- Does the first part begin with a letter or digit, its type assertion apart? -/
def targetStartsWithWord : Children → Bool
  | .cons _ (.mk .typeAssertion _ inner) _ => assertedStartsWithWord inner
  | .cons _ n _ => startsWithWord n
  | .nil => false

/-- Does the asserted expression begin with a letter or digit? -/
def assertedStartsWithWord : Children → Bool
  | .nil => false
  | .cons .expr n _ => startsWithWord n
  | .cons _ _ rest => assertedStartsWithWord rest

/-- Does the only parameter begin with a letter? -/
def onlyStartsWithWord : Children → Bool
  | .cons .param _ (.cons .param _ _) => false
  | .cons .param n _ => startsWithWord n
  | _ => false

end

/-- Does the statement begin with a letter or digit? -/
def statementStartsWithWord (n : Node) : Bool :=
  match n.kind with
  | .block | .empty => false
  | .exprStmt => (n.child? .expr).any startsWithWord
  | _ => true

mutual

/-- Does the printed expression, pattern or list of variables end with a letter or digit? -/
def endsWithWord : Node → Bool
  | .mk kind _ parts =>
    match kind with
    | .array | .object | .str _ _ | .paren | .call | .arrayPat _ | .objectPat _ => false
    | .member => !lastIsComputed parts
    | .rest => firstEndsWithWord parts
    | .assignPat | .varDecl _ _ | .usingDecl _ | .declarator _ => lastEndsWithWord true parts
    | _ => true

/-- Is the last part a property in brackets? -/
def lastIsComputed : Children → Bool
  | .nil => false
  | .cons _ (.mk kind _ _) .nil => kind = .computed
  | .cons _ _ rest => lastIsComputed rest

def firstEndsWithWord : Children → Bool
  | .nil => true
  | .cons _ n _ => endsWithWord n

/-- Does the last part end with a letter or digit? `before` is the answer if there is none. -/
def lastEndsWithWord (before : Bool) : Children → Bool
  | .nil => before
  | .cons _ n rest => lastEndsWithWord (endsWithWord n) rest

end

end AwaitCalls.Print
