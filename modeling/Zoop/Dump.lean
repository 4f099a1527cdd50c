import Zoop.Program.Statement

/-!
# Dumps

The form in which tokens and programs are shown on request: nested groups, one item a line, each
level four spaces further in.
-/

namespace Zoop

/-- A text with nested groups. -/
inductive Dump where
  /-- A text on one line. -/
  | atom (text : String)
  /-- A name before an item. -/
  | field (name : String) (value : Dump)
  /-- Items between an opening and a closing text. -/
  | group (opening closing : String) (items : List Dump)

namespace Dump

/-! ## Layout -/

/-- The space before the items of a level. -/
def indentation (level : Nat) : String :=
  String.ofList (List.replicate (4 * level) ' ')

mutual

/-- The text of a dump whose first line stands at a given level. -/
def render (level : Nat) : Dump → String
  | .atom text => text
  | .field name value => name ++ ": " ++ render level value
  | .group opening closing items =>
      opening ++ "\n" ++ renderItems (level + 1) items ++ indentation level ++ closing

/-- The lines of the items of a group. -/
def renderItems (level : Nat) : List Dump → String
  | [] => ""
  | item :: rest => indentation level ++ render level item ++ ",\n" ++ renderItems level rest

end

/-- The text of a dump. -/
def text (dump : Dump) : String :=
  render 0 dump

/-! ## Shapes -/

/-- A name with fields. -/
def record (name : String) (fields : List Dump) : Dump :=
  .group (name ++ " \x7b") "\x7d" fields

/-- A name with an item in parentheses. -/
def tuple (name : String) (item : Dump) : Dump :=
  .group (name ++ "(") ")" [item]

/-- A list, which stays on one line when it is empty. -/
def list (items : List Dump) : Dump :=
  if items.isEmpty then .atom "[]" else .group "[" "]" items

/-- Something that may be left out. -/
def option : Option Dump → Dump
  | none => .atom "None"
  | some item => tuple "Some" item

/-- A text in quotes. -/
def string (text : String) : Dump :=
  .atom (Text.quoted text)

/-- A truth value. -/
def boolean (truth : Bool) : Dump :=
  .atom (if truth then "true" else "false")

/-! ## Parts of programs -/

/-- A position. -/
def position (position : Position) : Dump :=
  record "Position" [
    .field "line" (.atom (toString position.line)),
    .field "column" (.atom (toString position.column))]

/-- A data type. -/
def dataType : DataType → Dump
  | .int => .atom "Int"
  | .uint => .atom "Uint"
  | .dec => .atom "Dec"
  | .udec => .atom "Udec"
  | .string => .atom "String"
  | .bool => .atom "Bool"
  | .label => .atom "Label"
  | .void => .atom "Void"

/-- A value. -/
def value : Value → Dump
  | .number value => tuple "Number" (.atom (Layout.dumped.text value))
  | .string value => tuple "String" (string value)
  | .boolean value => tuple "Boolean" (boolean value)
  | .void => .atom "Void"

/-- A literal. -/
def literal (literal : Literal) : Dump :=
  record "Literal" [.field "ty" (dataType literal.type), .field "value" (value literal.value)]

/-- A variable. -/
def variableReference (subject : Variable) : Dump :=
  record "Variable" [
    .field "mutable" (boolean subject.mutable),
    .field "name" (string subject.name)]

/-- A parameter. -/
def parameter (parameter : Parameter) : Dump :=
  record "Param" [
    .field "name" (string parameter.name),
    .field "ty" (dataType parameter.type)]

/-- An expression with the place of its start. -/
def placedExpression (place : Position) (kind : Dump) : Dump :=
  record "Expr" [.field "position" (position place), .field "kind" kind]

mutual

/-- An expression. -/
def expression : Expression → Dump
  | .literal place content => placedExpression place (tuple "Literal" (literal content))
  | .variable place subject =>
      placedExpression place (tuple "Variable" (variableReference subject))
  | .declare place subject type content =>
      placedExpression place (tuple "Declare" (record "ExprDeclare" [
        .field "variable" (variableReference subject),
        .field "ty" (dataType type),
        .field "value" (expression content)]))
  | .reassign place name content =>
      placedExpression place (tuple "Reassign" (record "ExprReassign" [
        .field "name" (string name),
        .field "value" (expression content)]))
  | .grouping place inner => placedExpression place (tuple "Grouping" (expression inner))
  | .unary place operator operand =>
      placedExpression place (tuple "Unary" (record "ExprUnary" [
        .field "op" (.atom operator.name),
        .field "operand" (expression operand)]))
  | .binary place operator operatorPlace left right =>
      placedExpression place (tuple "Binary" (record "ExprBinary" [
        .field "left" (expression left),
        .field "op" (.atom operator.name),
        .field "op_position" (position operatorPlace),
        .field "right" (expression right)]))
  | .cast place type inner =>
      placedExpression place (tuple "Cast" (record "ExprCast" [
        .field "expr" (expression inner),
        .field "ty" (dataType type)]))
  | .input place type prompt =>
      placedExpression place (tuple "Input" (record "ExprInput" [
        .field "ty" (dataType type),
        .field "prompt" (option (prompt.map string))]))
  | .call place label arguments =>
      placedExpression place (tuple "Call" (record "ExprCall" [
        .field "label" (string label),
        .field "args" (list (expressions arguments))]))

/-- Expressions in order. -/
def expressions : List Expression → List Dump
  | [] => []
  | first :: rest => expression first :: expressions rest

end

/-- A statement with its place. -/
def placedStatement (place : Position) (kind : Dump) : Dump :=
  record "Stmt" [.field "position" (position place), .field "kind" kind]

mutual

/-- A statement. -/
def statement : Statement → Dump
  | .expression place content => placedStatement place (tuple "Expr" (expression content))
  | .print place content => placedStatement place (tuple "Print" (expression content))
  | .block place body => placedStatement place (tuple "Block" (list (statements body)))
  | .condition place first others otherwise =>
      placedStatement place (tuple "Condition" (record "StmtCondition" [
        .field "then_branch" (branch first),
        .field "elif_branches" (list (branches others)),
        .field "else_body" (otherwiseBody otherwise)]))
  | .routine place label parameters returnType body =>
      placedStatement place (tuple "Routine" (record "StmtRoutine" [
        .field "label" (string label),
        .field "params" (list (parameters.map parameter)),
        .field "body" (list (statements body)),
        .field "return_type" (option (returnType.map dataType))]))
  | .giveBack place content =>
      placedStatement place (tuple "Return" (option (content.map expression)))
  | .loop place body => placedStatement place (tuple "Loop" (list (statements body)))
  | .leave place => placedStatement place (.atom "End")

/-- Statements in order. -/
def statements : List Statement → List Dump
  | [] => []
  | first :: rest => statement first :: statements rest

/-- A guard with its body. -/
def branch : Branch → Dump
  | .mk place guard body =>
      record "ConditionBranch" [
        .field "position" (position place),
        .field "guard" (expression guard),
        .field "body" (list (statements body))]

/-- Guards with their bodies in order. -/
def branches : List Branch → List Dump
  | [] => []
  | first :: rest => branch first :: branches rest

/-- The body for when no guard passes. -/
def otherwiseBody : Option (List Statement) → Dump
  | none => .atom "None"
  | some body => tuple "Some" (list (statements body))

end

/-- A program. -/
def program (program : Program) : Dump :=
  record "Program" [.field "body" (list (statements program.statements))]

/-- A list of tokens. -/
def tokens (tokens : List Token) : Dump :=
  list (tokens.map fun token => .atom token.dump)

end Dump

end Zoop
