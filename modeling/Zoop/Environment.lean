import Zoop.BoundedStack
import Zoop.Literal
import Zoop.Program.Statement
import Zoop.RuntimeError

/-!
# Environments

The state of a run: a stack of scopes, of which the outermost is never left, the zoops that have been
declared, and the arguments of the calls that are active.  A scope has separate bindings for mutable
and for immutable names.  A call sees the scopes of its caller, but of the arguments only its own.
-/

namespace Zoop

/-! ## Bindings -/

/-- Names with their values, in the order in which the names came. -/
structure Bindings where
  entries : List (String × Literal)
deriving DecidableEq

namespace Bindings

/-- No names. -/
def empty : Bindings :=
  ⟨[]⟩

/-- The value of a name. -/
def get? (bindings : Bindings) (name : String) : Option Literal :=
  bindings.entries.lookup name

/-- Whether a name has a value. -/
def binds (bindings : Bindings) (name : String) : Bool :=
  (bindings.get? name).isSome

/-- Entries with a new value for a name, which keeps its place if it has one and comes last
otherwise. -/
def setEntry (name : String) (value : Literal) : List (String × Literal) → List (String × Literal)
  | [] => [(name, value)]
  | entry :: rest =>
      if entry.1 = name then
        (name, value) :: rest
      else
        entry :: setEntry name value rest

/-- Give a name a value. -/
def set (bindings : Bindings) (name : String) (value : Literal) : Bindings :=
  ⟨setEntry name value bindings.entries⟩

/-- A name that is given a value has that value. -/
theorem get?_set_self (bindings : Bindings) (name : String) (value : Literal) :
    (bindings.set name value).get? name = some value := by
  obtain ⟨entries⟩ := bindings
  simp only [get?, set]
  induction entries with
  | nil => simp [setEntry]
  | cons entry rest inductionHypothesis =>
      obtain ⟨key, old⟩ := entry
      simp only [setEntry]
      split
      · simp
      · rename_i different
        have unequal : (name == key) = false := by
          simpa using fun equality => different equality.symm
        simpa [List.lookup_cons, unequal] using inductionHypothesis

/-- Giving a name a value changes no other name. -/
theorem get?_set_of_ne
    (bindings : Bindings) {name other : String} (value : Literal) (different : other ≠ name) :
    (bindings.set name value).get? other = bindings.get? other := by
  obtain ⟨entries⟩ := bindings
  simp only [get?, set]
  have unequal : (other == name) = false := by simpa using different
  induction entries with
  | nil => simp [setEntry, List.lookup_cons, unequal]
  | cons entry rest inductionHypothesis =>
      obtain ⟨key, old⟩ := entry
      simp only [setEntry]
      split
      · rename_i equality
        subst equality
        simp [List.lookup_cons, unequal]
      · simp only [List.lookup_cons]
        split
        · rfl
        · exact inductionHypothesis

end Bindings

/-! ## Scopes -/

/-- What opened a scope. -/
inductive ScopeKind where
  | global
  /-- A scope block or a branch. -/
  | block
  /-- The body of a zoop that is called. -/
  | routineBody
deriving DecidableEq, Repr

/-- The bindings of one scope. -/
structure Scope where
  kind : ScopeKind
  /-- The names behind `@`. -/
  mutables : Bindings
  /-- The names behind `$`. -/
  immutables : Bindings
deriving DecidableEq

namespace Scope

/-- A scope without names. -/
def fresh (kind : ScopeKind) : Scope :=
  ⟨kind, .empty, .empty⟩

/-- The bindings for one kind of variables. -/
def space (scope : Scope) (mutable : Bool) : Bindings :=
  if mutable then scope.mutables else scope.immutables

/-- The value of a variable in this scope alone. -/
def get? (scope : Scope) (subject : Variable) : Option Literal :=
  (scope.space subject.mutable).get? subject.name

/-- Whether a variable has a value in this scope. -/
def binds (scope : Scope) (subject : Variable) : Bool :=
  (scope.get? subject).isSome

/-- Give a variable a value in this scope. -/
def set (scope : Scope) (subject : Variable) (value : Literal) : Scope :=
  if subject.mutable then
    { scope with mutables := scope.mutables.set subject.name value }
  else
    { scope with immutables := scope.immutables.set subject.name value }

end Scope

/-! ## Zoops -/

/-- A zoop that has been declared. -/
structure Routine where
  label : String
  parameters : List Parameter
  /-- The data type that it hands back, if it names one. -/
  returnType : Option DataType
  body : List Statement

namespace Routine

/-- How many arguments a call needs. -/
def arity (routine : Routine) : Nat :=
  routine.parameters.length

/-- The data type of the value that a call has, which is `void` when the zoop names none. -/
def resultType (routine : Routine) : DataType :=
  routine.returnType.getD .void

end Routine

/-! ## Environments -/

/-- How many calls may be active at once. -/
def maxContexts : Nat :=
  20

/-- The arguments of an active call, by the names of the parameters. -/
abbrev Context : Type :=
  Bindings

/-- The state of a run. -/
structure Environment where
  /-- The innermost scope. -/
  current : Scope
  /-- The scopes around it, innermost first. -/
  outer : List Scope
  routines : List Routine
  /-- The arguments of the active calls, innermost first. -/
  contexts : BoundedStack Context maxContexts

namespace Environment

/-- The state at the start of a run. -/
def initial : Environment :=
  ⟨.fresh .global, [], [], .empty⟩

/-- All scopes, innermost first. -/
def scopes (environment : Environment) : List Scope :=
  environment.current :: environment.outer

/-- Whether only the outermost scope is open. -/
def inGlobal (environment : Environment) : Bool :=
  environment.outer.isEmpty

/-! ### Opening and leaving scopes -/

/-- Open a new scope inside the innermost one. -/
def pushScope (environment : Environment) (kind : ScopeKind) : Environment :=
  { environment with
    current := .fresh kind
    outer := environment.current :: environment.outer }

/-- Leave the innermost scope.  The outermost scope is never left. -/
def popScope (environment : Environment) : Environment :=
  match environment.outer with
  | [] => environment
  | scope :: outer => { environment with current := scope, outer := outer }

/-! ### Contexts -/

/-- The arguments of the innermost active call. -/
def topContext? (environment : Environment) : Option Context :=
  environment.contexts.top?

/-- Enter a call with its arguments. -/
def pushContext (environment : Environment) (context : Context) :
    Except RuntimeCause Environment :=
  match environment.contexts.push? context with
  | some contexts => .ok { environment with contexts := contexts }
  | none => .error .contextOverflow

/-- Leave the innermost active call. -/
def popContext (environment : Environment) : Environment :=
  { environment with contexts := environment.contexts.pop }

/-- The argument of the innermost active call that a variable names.  Arguments are immutable. -/
def argument? (environment : Environment) (subject : Variable) : Option Literal :=
  if subject.mutable then
    none
  else
    environment.topContext?.bind fun context => context.get? subject.name

/-! ### Variables -/

/-- The value of a variable: an argument of the innermost call comes first, then the scopes from the
innermost outwards. -/
def lookup (environment : Environment) (subject : Variable) : Except RuntimeCause Literal :=
  match environment.argument? subject with
  | some value => .ok value
  | none =>
      match environment.scopes.findSome? fun scope => scope.get? subject with
      | some value => .ok value
      | none => .error (.undefinedVariable subject)

/-- Give a new variable its first value in the innermost scope.  It may not have the name of an
argument, other than in the outermost scope, nor be declared in this scope already. -/
def define (environment : Environment) (subject : Variable) (value : Literal) :
    Except RuntimeCause Environment :=
  if !environment.inGlobal && (environment.argument? subject).isSome then
    .error (.contextRedefinition subject.name)
  else if environment.current.binds subject then
    .error (.redefinition subject.name)
  else
    .ok { environment with current := environment.current.set subject value }

/-- Scopes with a new value for the nearest mutable variable of a name. -/
def assignNearest? (name : String) (value : Literal) : List Scope → Option (List Scope)
  | [] => none
  | scope :: outer =>
      if scope.mutables.binds name then
        some (scope.set ⟨true, name⟩ value :: outer)
      else
        (assignNearest? name value outer).map (scope :: ·)

/-- Give the nearest mutable variable of a name a new value. -/
def assign (environment : Environment) (name : String) (value : Literal) :
    Except RuntimeCause Environment :=
  match assignNearest? name value environment.scopes with
  | some (current :: outer) => .ok { environment with current := current, outer := outer }
  | _ => .error (.notDefined name)

/-! ### Zoops -/

/-- The zoop with a given label. -/
def findRoutine? (environment : Environment) (label : String) : Option Routine :=
  environment.routines.find? fun routine => routine.label == label

/-- The zoop with a given label, which has to exist. -/
def routine (environment : Environment) (label : String) : Except RuntimeCause Routine :=
  match environment.findRoutine? label with
  | some routine => .ok routine
  | none => .error (.routineNotDeclared label)

/-- Declare a zoop.  Its label may not be taken. -/
def declareRoutine (environment : Environment) (routine : Routine) :
    Except RuntimeCause Environment :=
  match environment.findRoutine? routine.label with
  | some _ => .error (.routineRedeclared routine.label)
  | none => .ok { environment with routines := routine :: environment.routines }

end Environment

end Zoop
