import Zoop.Program.Expression

/-!
# Statements and programs

A program is a list of statements.  The bodies of blocks, branches, loops and zoops are lists of
statements as well.
-/

namespace Zoop

/-- A parameter of a zoop, which is always immutable. -/
structure Parameter where
  name : String
  /-- The data type that the argument must have. -/
  type : DataType
deriving DecidableEq, Repr

mutual

/-- The statements of the language. -/
inductive Statement where
  /-- An expression for its effect alone. -/
  | expression (position : Position) (value : Expression)
  | print (position : Position) (value : Expression)
  /-- Statements with a scope of their own. -/
  | block (position : Position) (body : List Statement)
  /-- Guarded bodies, the first of which whose guard passes is run, and a body for when none does. -/
  | condition
      (position : Position)
      (first : Branch)
      (others : List Branch)
      (otherwise : Option (List Statement))
  | routine
      (position : Position)
      (label : String)
      (parameters : List Parameter)
      (returnType : Option DataType)
      (body : List Statement)
  /-- The end of a zoop, with or without a value for its caller. -/
  | giveBack (position : Position) (value : Option Expression)
  /-- Statements that are run again and again. -/
  | loop (position : Position) (body : List Statement)
  /-- The end of the innermost loop. -/
  | leave (position : Position)

/-- A guard with its body. -/
inductive Branch where
  | mk (position : Position) (guard : Expression) (body : List Statement)

end

namespace Statement

/-- The position of the statement. -/
def position : Statement → Position
  | .expression position _ => position
  | .print position _ => position
  | .block position _ => position
  | .condition position _ _ _ => position
  | .routine position _ _ _ _ => position
  | .giveBack position _ => position
  | .loop position _ => position
  | .leave position => position

end Statement

/-- A program: its statements in the order of the source. -/
structure Program where
  statements : List Statement

namespace Program

/-- Whether the program has no statement. -/
def isEmpty (program : Program) : Bool :=
  program.statements.isEmpty

end Program

end Zoop
