import AwaitCalls.Text.Source
import AwaitCalls.Syntax.Fault

/-!
# Tokens

A token is the shortest unit that the grammar speaks of. Which words are reserved depends on where
they stand, so the grammar decides that.
-/
namespace AwaitCalls.Syntax

open AwaitCalls.Text

inductive Token
  /-- A word: what it means to the grammar, and the name that it gives. The two differ if it is spelled
  with escapes. A word whose first letter is escaped means nothing but a name. -/
  | word (text name : String)
  | punct (text : String)
  | num (raw : String)
  | bigInt (raw : String)
  /-- A string with its value as code points, among which a lone surrogate may occur. -/
  | str (value : List Nat) (raw : String)
  | eof
  | bad (fault : Fault) (pos : Nat)
deriving DecidableEq, Repr, Inhabited

/-- A comment with its text between the marks. -/
structure Comment where
  isBlock : Bool
  text : String
  span : Span
deriving DecidableEq, Repr, Inhabited

/-- A comment as the scanner meets it between two tokens. -/
structure FoundComment where
  comment : Comment
  /-- A line break stands between the token before and the comment. -/
  afterBreak : Bool
  /-- The next character after the comment is a semicolon. -/
  beforeSemicolon : Bool
deriving Inhabited

/-- The programs that a fault in a token counts in. -/
inductive FlawScope
  | all
  /-- Strict code. -/
  | strict
  /-- The typed dialect. -/
  | typed
deriving DecidableEq, Repr

/-- A fault in a token that can be read all the same. -/
structure Flaw where
  scope : FlawScope
  fault : Fault
  pos : Nat
deriving DecidableEq, Repr

/-- A token with its place and with what stands between it and the token before. -/
structure Lexeme where
  token : Token
  lo : Nat
  hi : Nat
  afterBreak : Bool
  comments : List FoundComment
  /-- Starts of comments in the old markup style, which modules do not allow. -/
  markupComments : List Nat
  flaws : List Flaw
deriving Inhabited

def Lexeme.span (l : Lexeme) : Span := ⟨l.lo, l.hi⟩

/-- Words that no program may use as a name. -/
def isReserved (w : String) : Bool :=
  ["break", "case", "catch", "continue", "debugger", "default", "do", "else", "finally", "for",
   "function", "if", "return", "switch", "throw", "try", "var", "const", "while", "with", "new",
   "this", "super", "class", "extends", "export", "import", "in", "instanceof", "typeof", "void",
   "delete", "null", "true", "false", "enum"].contains w

/-- Words that strict code may not use as a name. -/
def isStrictReserved (w : String) : Bool :=
  ["implements", "interface", "let", "package", "private", "protected", "public", "static",
   "yield"].contains w

/-- Words that have a meaning in some place and are names elsewhere. -/
def isContextual (w : String) : Bool :=
  ["await", "yield", "let", "abstract", "any", "as", "asserts", "assert", "async", "bigint",
   "boolean", "declare", "from", "get", "global", "implements", "infer", "interface", "intrinsic",
   "is", "keyof", "module", "namespace", "never", "number", "object", "of", "out", "override",
   "package", "private", "protected", "public", "readonly", "require", "satisfies", "set", "static",
   "string", "symbol", "target", "type", "undefined", "unique", "unknown", "using",
   "accessor"].contains w

namespace Token

/-- How diagnostics call a token. -/
def shown : Token → String
  | word w _ => if isReserved w || isContextual w then w else "ident"
  | punct p => p
  | num _ => "numeric literal"
  | bigInt _ => "bigint literal"
  | str _ _ => "string literal"
  | eof => "<eof>"
  | bad _ _ => "<lexing error>"

def isPunct (t : Token) (p : String) : Bool :=
  match t with
  | punct q => q == p
  | _ => false

/-- A word of a given meaning. -/
def isWord (t : Token) (w : String) : Bool :=
  match t with
  | word v _ => v == w
  | _ => false

def isAnyWord : Token → Bool
  | word _ _ => true
  | _ => false

/-- A word that is not reserved everywhere. -/
def isName : Token → Bool
  | word w _ => !isReserved w
  | _ => false

def isStr : Token → Bool
  | str _ _ => true
  | _ => false

/-- May a comment in marks that follows the token on its line belong to it? -/
def keepsComment : Token → Bool
  | word w _ => !isReserved w
  | num _ | bigInt _ | str _ _ => true
  | punct p => ["\x7b", "\x7d", ";"].contains p
  | _ => false

/-- May a comment to the end of the line belong to the token before it? -/
def keepsLineComment : Token → Bool
  | punct p =>
    let operators :=
      ["==", "!=", "===", "!==", "<", "<=", ">", ">=", "<<", ">>", ">>>", "+", "-", "*", "/", "%",
        "|", "^", "&", "||", "&&", "**", "??"]
    !operators.contains p
  | _ => true

end Token

end AwaitCalls.Syntax
