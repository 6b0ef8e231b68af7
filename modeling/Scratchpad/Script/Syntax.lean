import Scratchpad.Text.Units

/-!
# The syntax of scripts

Expressions, statements, functions and classes as a parser leaves them. A pattern is an expression
too, as the target of an assignment reads like one. Every block and function lists what it
declares, so that nothing has to be searched for when it runs. Functions and classes stand in a
table of their own, and an expression names one by its place there; so an expression holds
expressions only.
-/
namespace Scratchpad.Script

open Scratchpad.Text (Units)

/-- An operator with one operand that yields a value. -/
inductive UnaryOp where
  | plus
  | minus
  | not
  | complement
  | discard
  | typeName
deriving DecidableEq, Repr

/-- An operator with two operands that are both evaluated. -/
inductive BinaryOp where
  | add
  | sub
  | mul
  | div
  | rem
  | pow
  | shiftLeft
  | shiftRight
  | shiftRightZero
  | less
  | greater
  | lessEq
  | greaterEq
  | looseEq
  | looseNe
  | strictEq
  | strictNe
  | bitAnd
  | bitOr
  | bitXor
  | isInstance
  | hasProperty
deriving DecidableEq, Repr

/-- An operator whose second operand may not be evaluated. -/
inductive LogicalOp where
  | and
  | or
  | coalesce
deriving DecidableEq, Repr

/-- What a function is called as. -/
inductive FunctionKind where
  | ordinary
  | arrow
  | method
  | getter
  | setter
  | baseConstructor
  | derivedConstructor
  /-- The initial value of a field, or a static block. -/
  | initializer
deriving DecidableEq, Repr, Inhabited

/-- Whether a function makes objects and cannot be called otherwise. -/
def FunctionKind.isConstructor : FunctionKind → Bool
  | .baseConstructor | .derivedConstructor => true
  | _ => false

/-- A name that a block or a function body declares, and whether it can be assigned. -/
structure Lexical where
  name : Units
  constant : Bool
deriving Inhabited

/-- How the names of a declaration are bound. -/
inductive DeclarationKind where
  | var
  | lexical (constant : Bool)
deriving DecidableEq, Repr, Inhabited

/-- What a member of an object literal or a class is. -/
inductive MemberKind where
  | value
  | method
  | getter
  | setter
  /-- The value that becomes the prototype of a literal. -/
  | prototype
  /-- An object whose own properties are copied. -/
  | spread
deriving DecidableEq, Repr, Inhabited

mutual

/-- An expression, or a pattern. -/
inductive Expr where
  /-- A missing item of a list. -/
  | hole
  | undefined
  | null
  | boolean (value : Bool)
  | number (value : Float)
  | bigint (value : Int)
  | text (value : Units)
  /-- A regular expression, of which only the text is kept. -/
  | regex (source : Units)
  | template (strings : List Units) (parts : List Expr)
  | tagged (tag : Expr) (cooked : List (Option Units)) (raw : List Units) (parts : List Expr)
  | name (name : Units)
  /-- The name of a private member. -/
  | hidden (name : Units)
  | this
  | newTarget
  | array (items : List Expr)
  | object (members : List Member)
  /-- A function, by its place in the table. -/
  | function (place : Nat)
  /-- A class, by its place in the table. -/
  | class (place : Nat)
  | unary (op : UnaryOp) (operand : Expr)
  | delete (operand : Expr)
  | update (increment postfixed : Bool) (target : Expr)
  | binary (op : BinaryOp) (left right : Expr)
  | logical (op : LogicalOp) (left right : Expr)
  | conditional (test consequent alternate : Expr)
  | assign (target value : Expr)
  | destructure (pattern value : Expr)
  | compound (op : BinaryOp) (target value : Expr)
  | logicalAssign (op : LogicalOp) (target value : Expr)
  | sequence (first second : Expr)
  | member (object : Expr) (name : Units)
  | index (object key : Expr)
  | privateMember (object : Expr) (name : Units)
  | privateIn (name : Units) (object : Expr)
  | superMember (key : Expr)
  | superCall (arguments : List Expr)
  | call (callee : Expr) (arguments : List Expr)
  | new (callee : Expr) (arguments : List Expr)
  /-- A chain of members and calls that a missing value ends. -/
  | chain (inner : Expr)
  /-- The part of a chain whose missing value ends it. -/
  | optional (inner : Expr)
  | await (operand : Expr)
  | yield (operand : Expr)
  /-- The items of an iterable object in a list of values, or the rest of a pattern. -/
  | spread (inner : Expr)
  | arrayPattern (items : List Expr)
  | objectPattern (members : List Member)
  /-- A target with the value that it gets in the place of a missing one. -/
  | withDefault (target initial : Expr)
  /-- An expression in parentheses, which lends its name to nothing. -/
  | grouped (inner : Expr)

/-- A member of an object literal or of an object pattern. -/
inductive Member where
  | mk (kind : MemberKind) (name value : Expr)

end

instance : Inhabited Expr := ⟨.undefined⟩
instance : Inhabited Member := ⟨.mk .value .undefined .undefined⟩

/-- The functions and the names that a block declares. -/
structure Scope where
  lexicals : List Lexical
  /-- Functions by name and place in the table. -/
  functions : List (Units × Nat)
deriving Inhabited

/-- Whether a scope declares nothing. -/
def Scope.isEmpty (scope : Scope) : Bool := scope.lexicals.isEmpty && scope.functions.isEmpty

/-- What a loop over keys or values binds each time. -/
structure LoopTarget where
  /-- How new names are bound; nothing is declared if absent. -/
  declares : Option DeclarationKind
  pattern : Expr
  names : List Lexical
deriving Inhabited

mutual

/-- A statement. -/
inductive Stmt where
  | empty
  | expression (value : Expr)
  /-- Bindings with their initial values. -/
  | declare (kind : DeclarationKind) (bindings : List (Expr × Option Expr))
  /-- A function declared in a block, whose name is also bound in the function around it. -/
  | exportFunction (name : Units)
  | class (name : Units) (place : Nat)
  | block (scope : Scope) (body : List Stmt)
  | if (test : Expr) (consequent alternate : Stmt)
  /-- A counting loop; the names of its start are bound anew for each turn if asked for. -/
  | for (names : List Lexical) (start : Stmt) (test update : Option Expr) (body : Stmt)
      (fresh : Bool)
  | forIn (target : LoopTarget) (object : Expr) (body : Stmt)
  | forOf (target : LoopTarget) (iterable : Expr) (body : Stmt) (awaits : Bool)
  | while (test : Expr) (body : Stmt)
  | doWhile (body : Stmt) (test : Expr)
  | return (value : Option Expr)
  | break (label : Option Units)
  | continue (label : Option Units)
  | throw (value : Expr)
  /-- A statement with a handler, which may bind what was thrown. -/
  | tryCatch (body : Stmt) (parameter : Option Expr) (names : List Lexical) (handler : Stmt)
  | tryFinally (body finalizer : Stmt)
  | switch (value : Expr) (scope : Scope) (cases : List Case)
  | labeled (label : Units) (body : Stmt)
  | with (object : Expr) (body : Stmt)

/-- A case of a switch; the default has no test. -/
inductive Case where
  | mk (test : Option Expr) (body : List Stmt)

end

instance : Inhabited Stmt := ⟨.empty⟩
instance : Inhabited Case := ⟨.mk none []⟩

/-- A function. -/
structure Function where
  name : Units
  kind : FunctionKind
  /-- Whether it returns a promise. -/
  asynchronous : Bool
  /-- Whether it returns an iterator of what it yields. -/
  generator : Bool
  strict : Bool
  /-- The number of parameters before one with a default or the rest. -/
  length : Nat
  /-- The text of the whole function. -/
  source : Units
  /-- The parameters, the rest as a spread. -/
  parameters : List Expr
  /-- Whether every parameter is a plain name. -/
  simple : Bool
  /-- Every name that the parameters bind. -/
  parameterNames : List Units
  /-- Every name declared by `var` in the body. -/
  varNames : List Units
  /-- The names declared at the top of the body. -/
  scope : Scope
  /-- The name by which a function expression knows itself. -/
  selfName : Option Units
  /-- Whether the body may look at its arguments as an object. -/
  usesArguments : Bool
  body : List Stmt
deriving Inhabited

/-- A member of a class; a private one has a hidden name. -/
structure ClassMember where
  isStatic : Bool
  kind : MemberKind
  name : Expr
  /-- The method or the initial value, by its place in the table of functions. -/
  function : Option Nat
  /-- Whether it is a static block. -/
  isBlock : Bool
deriving Inhabited

/-- A class. -/
structure Class where
  name : Units
  /-- Whether the name is bound inside the class. -/
  bound : Bool
  parent : Option Expr
  /-- The constructor, by its place in the table of functions. -/
  constructor : Nat
  members : List ClassMember
  /-- The private names that the class declares. -/
  hiddenNames : List Units
deriving Inhabited

/-- The functions and classes of scripts. -/
structure Table where
  functions : Array Function
  classes : Array Class
deriving Inhabited

/-- A whole script: its strictness, what it declares, and its statements. -/
structure Program where
  strict : Bool
  varNames : List Units
  scope : Scope
  body : List Stmt
deriving Inhabited

end Scratchpad.Script
