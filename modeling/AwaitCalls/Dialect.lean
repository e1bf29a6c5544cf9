/-!
# Dialects of program text
-/
namespace AwaitCalls

/-- Which extensions of the base language a text may use. -/
structure Dialect where
  /-- Type annotations and the declarations that come with them. -/
  typescript : Bool := false
  /-- Markup in expressions. -/
  jsx : Bool := false
  decorators : Bool := false
deriving DecidableEq, Repr, Inhabited

namespace Dialect

/-- The typed dialect with nothing else. -/
def typed : Dialect := ⟨true, false, false⟩

end Dialect

end AwaitCalls
