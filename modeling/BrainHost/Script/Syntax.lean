import BrainHost.Script.Str

/-! # Syntax of scripts

The tree of a script. A node that can throw or call has the place that its stack frame shows. -/

namespace BrainHost.Script

/-- A place in a source. The column counts from 1. -/
structure Place where
  line : Nat
  column : Nat
  deriving DecidableEq, Inhabited

/-- The key of a property: an array index, another string or a symbol. -/
inductive Key
  | index (n : Nat)
  | name (s : Str)
  | symbol (id : Nat)
  deriving DecidableEq, Inhabited

/-- Operators with one operand. -/
inductive UnaryOp
  | minus | plus | not | complement | typeof | void
  deriving DecidableEq

/-- Operators with two operands, both of which are evaluated. -/
inductive BinaryOp
  | add | sub | mul | div | mod | exp
  | shiftLeft | shiftRight | shiftRightUnsigned | and | or | xor
  | less | greater | lessEqual | greaterEqual
  | equal | notEqual | strictEqual | strictNotEqual
  | instanceof | isIn
  deriving DecidableEq

/-- Operators whose second operand is evaluated on demand. -/
inductive LogicalOp
  | and | or | coalesce
  deriving DecidableEq

/-- How the value of an assignment is made. -/
inductive AssignOp
  | plain
  | combine (op : BinaryOp)
  | logical (op : LogicalOp)
  deriving DecidableEq

inductive DeclarationKind
  | var | let | const
  deriving DecidableEq, Inhabited

inductive FunctionKind
  | normal | arrow | method | getter | setter | constructor | derivedConstructor | initializer | module
  deriving DecidableEq, Inhabited

/-- Whether a function can be suspended. -/
inductive Coroutine
  | none | generator | async | asyncGenerator
  deriving DecidableEq, Inhabited

/-- A name that a block or function body declares, with what it holds before its declaration runs. -/
inductive Declared
  | let (name : Str)
  | const (name : Str)
  deriving DecidableEq

/-- What code may use of the call that it is part of. -/
structure Allowances where
  newTarget : Bool := false
  superCall : Bool := false
  superMember : Bool := false
  arguments : Bool := true
  deriving DecidableEq, Inhabited

/-- What is known of a function apart from its code. -/
structure FunctionInfo where
  name : Str
  kind : FunctionKind
  coroutine : Coroutine
  strict : Bool
  /-- The parameters before the first with a default or the rest. -/
  length : Nat
  /-- Whether no parameter has a default, a pattern or a rest. -/
  simple : Bool
  paramNames : List Str
  /-- The names that `var` declares, and those of functions at the top of the body. -/
  vars : List Str
  /-- The names that the body declares in blocks' manner. -/
  lexicals : List Declared
  usesArguments : Bool
  usesEval : Bool
  /-- Whether the function's own name is bound inside it. -/
  selfName : Bool
  file : String
  start : Place
  /-- The line on which the function ends. -/
  lastLine : Nat
  source : Str
  allowed : Allowances := {}
  deriving Inhabited

/-- What is known of a class apart from its code. -/
structure ClassInfo where
  name : Str
  hasName : Bool
  hasParent : Bool
  source : Str
  file : String
  start : Place
  stop : Place

mutual

inductive Expr
  /-- No expression, where one may be left out. -/
  | missing
  | null
  | bool (b : Bool)
  | number (x : Float)
  | string (s : Str)
  | bigint (n : Int)
  | regexp (source flags : Str)
  | template (first : Str) (parts : List TemplatePart) (place : Place)
  | tagged (tag : Expr) (site : Nat) (cooked : List (Option Str)) (raw : List Str) (args : List Expr)
      (place : Place)
  | name (name : Str) (place : Place)
  | this (place : Place)
  | newTarget
  | array (items : List Item)
  | object (members : List Member)
  | function (f : Function)
  | classOf (c : Class)
  | unary (op : UnaryOp) (e : Expr) (place : Place)
  | typeofName (name : Str) (place : Place)
  | delete (e : Expr) (place : Place)
  | update (increment : Bool) (before : Bool) (target : Target) (place : Place)
  | binary (op : BinaryOp) (left right : Expr) (place : Place)
  | logical (op : LogicalOp) (left right : Expr)
  | conditional (test whenTrue whenFalse : Expr)
  | assign (op : AssignOp) (target : Target) (value : Expr) (place : Place)
  | call (callee : Expr) (args : List Item) (optional : Bool) (place : Place)
  | construct (callee : Expr) (args : List Item) (place : Place)
  | superCall (args : List Item) (place : Place)
  | member (object : Expr) (key : Key) (optional : Bool) (place : Place)
  | element (object : Expr) (key : Expr) (optional : Bool) (place : Place)
  | superMember (key : Expr) (place : Place)
  | privateMember (object : Expr) (name : Str) (optional : Bool) (place : Place)
  | privateIn (name : Str) (object : Expr) (place : Place)
  /-- Where a chain with optional links ends. -/
  | chain (e : Expr)
  | sequence (first second : Expr)
  | yield (e : Expr) (delegate : Bool) (place : Place)
  | await (e : Expr) (place : Place)
  | importCall (e : Expr) (place : Place)
  | importMeta

/-- An expression in a template and the text after it. -/
inductive TemplatePart
  | mk (e : Expr) (text : Str)

/-- An item of an array literal or of arguments. -/
inductive Item
  | value (e : Expr)
  | spread (e : Expr) (place : Place)
  | hole

inductive MemberName
  | fixed (key : Key)
  | computed (e : Expr) (place : Place)
  | hidden (name : Str)

/-- A member of an object literal. -/
inductive Member
  | value (name : MemberName) (e : Expr)
  | method (name : MemberName) (f : Function)
  | getter (name : MemberName) (f : Function)
  | setter (name : MemberName) (f : Function)
  | parent (e : Expr)
  | spread (e : Expr) (place : Place)

/-- What is assigned to. -/
inductive Target
  | name (name : Str) (place : Place)
  | member (object : Expr) (key : Key) (place : Place)
  | element (object : Expr) (key : Expr) (place : Place)
  | superMember (key : Expr) (place : Place)
  | privateMember (object : Expr) (name : Str) (place : Place)
  | array (items : List TargetItem) (place : Place)
  | object (members : List TargetMember) (place : Place)
  /-- What cannot be assigned to, after its evaluation. -/
  | invalid (e : Expr) (place : Place)

/-- An item of an array pattern, with a default. -/
inductive TargetItem
  | item (target : Target) (fallback : Expr)
  | rest (target : Target)
  | hole

/-- A member of an object pattern, with a default. -/
inductive TargetMember
  | member (name : MemberName) (target : Target) (fallback : Expr)
  | rest (target : Target)

/-- A parameter of a function, with a default. -/
inductive Parameter
  | mk (target : Target) (fallback : Expr) (isRest : Bool)

inductive Function
  | mk (info : FunctionInfo) (params : List Parameter) (body : List Stmt)

inductive Class
  | mk (info : ClassInfo) (parent : Expr) (constructor : Option Function) (elements : List ClassElement)

inductive ClassElement
  | member (isStatic : Bool) (m : Member)
  /-- A field; its initializer is a function without parameters. -/
  | field (isStatic : Bool) (name : MemberName) (initializer : Option Function)
  | block (f : Function)

/-- Statements. -/
inductive Stmt
  | empty
  /-- An expression; `tracked` where its value may be that of the script. -/
  | expression (e : Expr) (tracked : Bool)
  | declare (kind : DeclarationKind) (target : Target) (init : Expr) (place : Place)
  /-- A function that is made when its block is entered; `hoisted` where it also sets the
  variable of the function around. -/
  | function (f : Function) (hoisted : Bool)
  | classOf (name : Str) (c : Class)
  | block (lexicals : List Declared) (body : List Stmt)
  | branch (test : Expr) (whenTrue whenFalse : Stmt) (tracked : Bool)
  | whileLoop (test : Expr) (body : Stmt) (tracked : Bool)
  | doLoop (body : Stmt) (test : Expr) (tracked : Bool)
  /-- A counting loop; `fresh` are the names that each round has anew. -/
  | forLoop (lexicals : List Declared) (init : List Stmt) (fresh : List Str) (test update : Expr) (body : Stmt)
      (tracked : Bool)
  /-- A loop over keys. `kind` is absent where the target is no declaration. -/
  | forIn (kind : Option DeclarationKind) (lexicals : List Declared) (target : Target) (init : Expr)
      (object : Expr) (body : Stmt) (place : Place) (tracked : Bool)
  | forOf (isAsync : Bool) (kind : Option DeclarationKind) (lexicals : List Declared) (target : Target)
      (iterable : Expr) (body : Stmt) (place : Place) (tracked : Bool)
  | switch (value : Expr) (lexicals : List Declared) (cases : List Case) (tracked : Bool)
  | labelled (label : Str) (body : Stmt)
  | breakTo (label : Str)
  | continueTo (label : Str)
  | returns (e : Expr)
  | throws (e : Expr) (place : Place)
  | tryCatch (block : List Stmt) (blockLexicals : List Declared) (handler : Option Handler)
      (cleanup : Option CleanUp) (tracked : Bool)
  | withObject (e : Expr) (body : Stmt) (place : Place)
  | debugger

/-- A case of a switch; the default case has no test. -/
inductive Case
  | mk (test : Option Expr) (body : List Stmt)

inductive Handler
  | mk (target : Option Target) (names : List Str) (lexicals : List Declared) (body : List Stmt)

/-- What is done whatever happens. -/
inductive CleanUp
  | mk (lexicals : List Declared) (body : List Stmt)

end

instance : Inhabited Expr := ⟨.missing⟩
instance : Inhabited Stmt := ⟨.empty⟩
instance : Inhabited Target := ⟨.invalid .missing default⟩
instance : Inhabited Function := ⟨.mk default [] []⟩

/-- What a module exports: the exported name and the name of its variable. -/
structure Export where
  exported : Str
  binding : Str
  deriving Inhabited

/-- A parsed script, module or evaluated text: a function without parameters. -/
structure Program where
  main : Function
  exports : List Export := []
  /-- The modules that are asked for, in order. -/
  requests : List Str := []
  /-- The number of the next template literal with a tag. -/
  sites : Nat := 0
  deriving Inhabited

end BrainHost.Script
