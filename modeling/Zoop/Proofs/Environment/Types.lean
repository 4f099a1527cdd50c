import Zoop.Proofs.Environment.Changes

/-!
# The data types of mutable variables

Each scope gives its mutable names data types.  What they should be follows from the changes alone: a
declaration names a data type, and nothing but the end of its scope takes it back.  A change leaves the
data types as they should be, with one exception.  A new value brings its own data type with it, so it
has to be of the data type that the nearest variable of its name has already.
-/

namespace Zoop

/-! ## Tables -/

/-- The data types of the mutable names of one scope. -/
abbrev TypeTable : Type :=
  String → Option DataType

namespace TypeTable

def empty : TypeTable :=
  fun _ => none

def declare (table : TypeTable) (name : String) (type : DataType) : TypeTable :=
  fun other => if other = name then some type else table other

/-- The data type of a name in the innermost scope that has it. -/
def nearest (tables : List TypeTable) (name : String) : Option DataType :=
  tables.findSome? fun table => table name

theorem declare_eq_self_iff (table : TypeTable) (name : String) (type : DataType) :
    table.declare name type = table ↔ table name = some type := by
  constructor
  · intro same
    rw [← same]
    simp [declare]
  · intro present
    funext other
    simp only [declare]
    split
    · next same => rw [same, present]
    · rfl

theorem nearest_append_cons
    {inner : List TypeTable} {table : TypeTable} {name : String} {type : DataType}
    (absent : ∀ nearer ∈ inner, nearer name = none) (present : table name = some type)
    (outer : List TypeTable) : nearest (inner ++ table :: outer) name = some type := by
  induction inner with
  | nil => simp [nearest, present]
  | cons nearer inner inductionHypothesis =>
      have headAbsent := absent nearer List.mem_cons_self
      have tailFound :=
        inductionHypothesis fun table member => absent table (List.mem_cons_of_mem nearer member)
      simpa [nearest, headAbsent] using tailFound

end TypeTable

namespace Scope

def mutableTypes (scope : Scope) : TypeTable :=
  fun name => (scope.get? ⟨true, name⟩).map Literal.type

theorem mutableTypes_set (scope : Scope) (name : String) (value : Literal) :
    (scope.set ⟨true, name⟩ value).mutableTypes = scope.mutableTypes.declare name value.type := by
  funext other
  simp only [mutableTypes, TypeTable.declare]
  split
  · next same =>
      subst same
      rw [get?_set_self]
      rfl
  · next different =>
      have otherSubject : (⟨true, other⟩ : Variable) ≠ ⟨true, name⟩ := by
        simpa using different
      rw [get?_set_of_ne scope value otherSubject]

theorem mutableTypes_set_immutable (scope : Scope) (name : String) (value : Literal) :
    (scope.set ⟨false, name⟩ value).mutableTypes = scope.mutableTypes := by
  funext other
  have otherSubject : (⟨true, other⟩ : Variable) ≠ ⟨false, name⟩ := by simp
  simp only [mutableTypes, get?_set_of_ne scope value otherSubject]

theorem isSome_mutableTypes (scope : Scope) (name : String) :
    (scope.mutableTypes name).isSome = scope.binds ⟨true, name⟩ := by
  simp [mutableTypes, binds]

end Scope

/-! ## Environments -/

namespace Environment

/-- The data types of the mutable variables, innermost scope first. -/
def mutableTypes (environment : Environment) : List TypeTable :=
  environment.scopes.map Scope.mutableTypes

theorem nearest_mutableTypes (environment : Environment) (name : String) :
    TypeTable.nearest environment.mutableTypes name =
      (environment.scopes.findSome? fun scope => scope.get? ⟨true, name⟩).map Literal.type := by
  rw [TypeTable.nearest, mutableTypes, List.findSome?_map, List.map_findSome?]
  rfl

theorem nearest_of_lookup
    {environment : Environment} {name : String} {value : Literal}
    (found : environment.lookup ⟨true, name⟩ = .ok value) :
    TypeTable.nearest environment.mutableTypes name = some value.type := by
  rw [nearest_mutableTypes, lookup_mutable_eq_ok found]
  rfl

/-- A new value keeps all data types exactly if the nearest variable has the data type of the value. -/
theorem mutableTypes_of_assign
    {before after : Environment} {name : String} {value : Literal}
    (succeeds : before.assign name value = .ok after) :
    after.mutableTypes = before.mutableTypes ↔
      TypeTable.nearest before.mutableTypes name = some value.type := by
  obtain ⟨_, _, inner, scope, outer, split, nearer, bound, shape⟩ := assign_eq_ok succeeds
  have typesBefore :
      before.mutableTypes =
        inner.map Scope.mutableTypes ++ scope.mutableTypes :: outer.map Scope.mutableTypes := by
    simp [mutableTypes, split]
  have typesAfter :
      after.mutableTypes =
        inner.map Scope.mutableTypes ++
          scope.mutableTypes.declare name value.type :: outer.map Scope.mutableTypes := by
    simp [mutableTypes, shape, Scope.mutableTypes_set]
  have innerAbsent : ∀ table ∈ inner.map Scope.mutableTypes, table name = none := by
    intro table member
    obtain ⟨candidate, candidateMember, equality⟩ := List.mem_map.mp member
    have unbound := nearer candidate candidateMember
    rw [← Scope.isSome_mutableTypes] at unbound
    rw [← equality]
    simpa using unbound
  have present : (scope.mutableTypes name).isSome = true := by
    rw [Scope.isSome_mutableTypes, bound]
  obtain ⟨type, hasType⟩ := Option.isSome_iff_exists.mp present
  rw [typesAfter, typesBefore, TypeTable.nearest_append_cons innerAbsent hasType, ← hasType]
  simp [TypeTable.declare_eq_self_iff]

end Environment

/-! ## The types that changes declare -/

/-- What becomes of the declared data types with a change. -/
def Change.declareTypes (tables : List TypeTable) : Change → List TypeTable
  | .opened _ => .empty :: tables
  | .closed =>
      match tables with
      | _ :: table :: outer => table :: outer
      | _ => tables
  | .defined ⟨true, name⟩ type _ =>
      match tables with
      | table :: outer => table.declare name type :: outer
      | [] => []
  | _ => tables

/-- The data types that a run has declared with its changes, of which the last one comes first. -/
def declaredTypes : List Change → List TypeTable
  | [] => [.empty]
  | change :: earlier => change.declareTypes (declaredTypes earlier)

/-- A new value is of the data type that the nearest variable of its name is declared with. -/
def Change.Faithful (tables : List TypeTable) : Change → Prop
  | .assigned name type _ => TypeTable.nearest tables name = some type
  | _ => True

instance (tables : List TypeTable) : (change : Change) → Decidable (change.Faithful tables)
  | .assigned name type _ =>
      inferInstanceAs (Decidable (TypeTable.nearest tables name = some type))
  | .opened _ | .closed | .defined _ _ _ | .declared _ | .entered _ | .left => .isTrue trivial

/-- A change makes the data types what it declares, except for new values that are not faithful. -/
theorem Change.mutableTypes_of_apply
    {before after : Environment} {change : Change}
    (fits : change.Fits) (applied : change.apply before = .ok after) :
    after.mutableTypes = change.declareTypes before.mutableTypes ↔
      change.Faithful before.mutableTypes := by
  cases change with
  | opened kind =>
      injection applied with equality
      rw [← equality]
      exact iff_of_true rfl trivial
  | closed =>
      injection applied with equality
      rw [← equality]
      obtain ⟨current, outer, routines, contexts⟩ := before
      cases outer with
      | nil => exact iff_of_true rfl trivial
      | cons scope outer => exact iff_of_true rfl trivial
  | defined subject type value =>
      obtain ⟨_, shape⟩ := Environment.define_eq_ok applied
      obtain ⟨mutable, name⟩ := subject
      refine iff_of_true ?_ trivial
      rw [shape]
      cases mutable with
      | false => simp [declareTypes, Environment.mutableTypes, Environment.scopes,
          Scope.mutableTypes_set_immutable]
      | true =>
          have typeOfValue : value.type = type := fits
          simp [declareTypes, Environment.mutableTypes, Environment.scopes, Scope.mutableTypes_set,
            typeOfValue]
  | assigned name type value =>
      have typeOfValue : value.type = type := fits
      simp only [declareTypes, Faithful, ← typeOfValue]
      exact Environment.mutableTypes_of_assign applied
  | declared routine =>
      obtain ⟨_, shape⟩ := Environment.declareRoutine_eq_ok applied
      rw [shape]
      exact iff_of_true rfl trivial
  | entered context =>
      obtain ⟨_, _, _, shape⟩ := Environment.pushContext_eq_ok applied
      rw [shape]
      exact iff_of_true rfl trivial
  | left =>
      injection applied with equality
      rw [← equality]
      exact iff_of_true rfl trivial

/-! ## Wider environments -/

/-- The same scopes are open, all variables have the data types that they had, and there are new variables
in the innermost scope at most. -/
structure Environment.Widens (before after : Environment) : Prop where
  outer : after.outer.map Scope.mutableTypes = before.outer.map Scope.mutableTypes
  current : ∀ name type,
    before.current.mutableTypes name = some type → after.current.mutableTypes name = some type

namespace Environment.Widens

theorem refl (environment : Environment) : Widens environment environment :=
  ⟨rfl, fun _ _ present => present⟩

theorem trans
    {before middle after : Environment}
    (first : Widens before middle) (second : Widens middle after) : Widens before after where
  outer := second.outer.trans first.outer
  current name type present := second.current name type (first.current name type present)

theorem of_mutableTypes_eq
    {before after : Environment} (same : after.mutableTypes = before.mutableTypes) :
    Widens before after := by
  simp only [mutableTypes, scopes, List.map_cons, List.cons.injEq] at same
  refine ⟨same.2, ?_⟩
  intro name type present
  rw [same.1, present]

theorem of_define
    {before after : Environment} {subject : Variable} {value : Literal}
    (succeeds : before.define subject value = .ok after) : Widens before after := by
  obtain ⟨unbound, shape⟩ := define_eq_ok succeeds
  rw [shape]
  refine ⟨rfl, ?_⟩
  intro name type present
  obtain ⟨mutable, defined⟩ := subject
  cases mutable with
  | false =>
      rw [Scope.mutableTypes_set_immutable]
      exact present
  | true =>
      rw [Scope.mutableTypes_set]
      have different : name ≠ defined := by
        intro same
        rw [← Scope.isSome_mutableTypes, ← same, present] at unbound
        cases unbound
      simpa [TypeTable.declare, different] using present

theorem of_declareRoutine
    {before after : Environment} {routine : Routine}
    (succeeds : before.declareRoutine routine = .ok after) : Widens before after := by
  obtain ⟨_, shape⟩ := declareRoutine_eq_ok succeeds
  rw [shape]
  exact of_mutableTypes_eq rfl

theorem of_scope
    {before after : Environment} {kind : ScopeKind}
    (inside : Widens (before.pushScope kind) after) : Widens before after.popScope := by
  have outerTypes := inside.outer
  obtain ⟨current, outer, routines, contexts⟩ := after
  cases outer with
  | nil => simp [pushScope] at outerTypes
  | cons scope outer =>
      apply of_mutableTypes_eq
      exact outerTypes

theorem of_context
    {before entered after : Environment} {context : Context}
    (push : before.pushContext context = .ok entered)
    (inside : Widens entered after) : Widens before after.popContext := by
  obtain ⟨_, _, _, shape⟩ := pushContext_eq_ok push
  subst shape
  exact ⟨inside.outer, inside.current⟩

/-- A name that is not new in the innermost scope stands for the variable that it stood for. -/
theorem nearest_eq
    {before after : Environment} {name : String} (wider : Widens before after)
    (notNew : after.current.binds ⟨true, name⟩ = before.current.binds ⟨true, name⟩) :
    TypeTable.nearest after.mutableTypes name = TypeTable.nearest before.mutableTypes name := by
  rw [← Scope.isSome_mutableTypes, ← Scope.isSome_mutableTypes] at notNew
  have here : after.current.mutableTypes name = before.current.mutableTypes name := by
    cases present : before.current.mutableTypes name with
    | some type => exact wider.current name type present
    | none =>
        rw [present] at notNew
        simpa using notNew
  simp only [TypeTable.nearest, mutableTypes, scopes, List.map_cons, List.findSome?_cons, here,
    wider.outer]

end Environment.Widens

end Zoop
