import Zoop.Environment

/-!
# Changes of environments

All that a run does to an environment is one of seven changes.  A change carries what those who take
note of it may want to know, also where the new environment does not depend on it.
-/

namespace Zoop

/-- What can happen to an environment. -/
inductive Change where
  /-- A scope is opened inside the innermost one. -/
  | opened (kind : ScopeKind)
  | closed
  /-- A variable that is declared with a data type gets its first value. -/
  | defined (subject : Variable) (type : DataType) (value : Literal)
  /-- The nearest mutable variable of a name gets a new value, which was made to fit a data type. -/
  | assigned (name : String) (type : DataType) (value : Literal)
  | declared (routine : Routine)
  | entered (context : Context)
  | left

namespace Change

/-- The environment after a change, or the reason why there is no such change. -/
def apply (environment : Environment) : Change → Except RuntimeCause Environment
  | .opened kind => .ok (environment.pushScope kind)
  | .closed => .ok environment.popScope
  | .defined subject _ value => environment.define subject value
  | .assigned name _ value => environment.assign name value
  | .declared routine => environment.declareRoutine routine
  | .entered context => environment.pushContext context
  | .left => .ok environment.popContext

end Change

end Zoop
