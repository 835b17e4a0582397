import BrainHost.Script.Syntax
import BrainHost.Script.Token

/-! # The state of the parser

The current token, the place that the next operation has, and the functions and blocks around it
with the names that they declare. -/

namespace BrainHost.Script

inductive PatternMode
  | assign
  | declare (kind : DeclarationKind)
  | parameter
  | caught

/-- What is known of a block while it is read. -/
structure BlockState where
  /-- Names that the block declares, in reverse. -/
  lexicals : List Declared := []
  /-- Names of functions that may be declared again. -/
  functions : List Str := []
  /-- Names that `var` declares in the block or within it. -/
  vars : List Str := []
  /-- Names that a handler of exceptions declares. -/
  caught : List Str := []
  deriving Inhabited

/-- What is known of a function while it is read. -/
structure FunctionState where
  kind : FunctionKind := .normal
  coroutine : Coroutine := .none
  strict : Bool := false
  /-- Whether this is the code of a script, a module or an evaluated text. -/
  isTop : Bool := false
  /-- Blocks from the innermost to the body. -/
  blocks : List BlockState := [{}]
  /-- Names that `var` declares, in reverse. -/
  vars : List Str := []
  params : List Str := []
  /-- Whether the text of the parameters holds an equals sign, so that they are variables of a scope
  of their own. -/
  parameterScope : Bool := false
  inBody : Bool := true
  allowed : Allowances := {}
  usesArguments : Bool := false
  usesEval : Bool := false
  /-- Labels around the statement, and whether they name loops. -/
  labels : List (Str × Bool) := []
  loops : Nat := 0
  switches : Nat := 0
  /-- Whether expression statements leave the value of the script. -/
  tracked : Bool := false
  deriving Inhabited

structure ParserState where
  token : Token
  /-- The line of the last token that was taken. -/
  line : Nat := 1
  /-- The column that the next operation has. -/
  column : Nat := 1
  /-- Where the last token that was taken ends. -/
  last : Cursor
  functions : List FunctionState := [{}]
  isModule : Bool := false
  file : String := ""
  exports : List Export := []
  requests : List Str := []
  /-- The number of template literals with a tag. -/
  sites : Nat := 0
  /-- Private names that are used and not yet declared by a class around. -/
  privateUses : List Str := []
  deriving Inhabited

abbrev Parse := StateT ParserState (Except SyntaxFault)

namespace Parse

variable {α : Type}

def fault (message : String) : Parse α := do
  let s ← get
  throw { message, line := s.token.start.line, column := s.token.start.column }

def function : Parse FunctionState := do pure ((← get).functions.headD {})

/-- Changes what is known of the function that is being read. -/
def modifyFunction (f : FunctionState → FunctionState) : Parse Unit :=
  modify fun s =>
    match s.functions with
    | fn :: rest => { s with functions := f fn :: rest }
    | [] => s

def isStrict : Parse Bool := do pure (← function).strict

def seek (cursor : Cursor) : Parse Unit := do
  let s ← get
  let strict ← isStrict
  match scan strict s.isModule cursor with
  | .ok token => set { s with token }
  | .error e => throw e

def advance : Parse Unit := do
  modify fun s => { s with line := s.token.start.line, last := s.token.after }
  seek (← get).token.after

/-- The token after the current one, if there is one. -/
def peek : Parse (Option Token) := do
  let s ← get
  let strict ← isStrict
  pure (scan strict s.isModule s.token.after).toOption

def current : Parse Token := do pure (← get).token

def isMarkToken (t : Token) (m : String) : Bool :=
  match t.lexeme with
  | .mark n => n == m
  | _ => false

/-- Whether a token is a word written without escapes. -/
def isWordToken (t : Token) (w : String) : Bool :=
  match t.lexeme with
  | .word n escaped => n == w && !escaped
  | _ => false

def atMark (m : String) : Parse Bool := do pure (isMarkToken (← current) m)

def atWord (w : String) : Parse Bool := do pure (isWordToken (← current) w)

def takeMark (m : String) : Parse Bool := do
  if ← atMark m then
    advance
    pure true
  else pure false

def takeWord (w : String) : Parse Bool := do
  if ← atWord w then
    advance
    pure true
  else pure false

def expect (m : String) : Parse Unit := do
  if ← atMark m then advance else fault s!"expecting '{m}'"

/-- Fails without telling where. -/
def faultNowhere (message : String) : Parse α := throw { message, line := 0, column := 0, located := false }

/-- Takes the end of a statement, which may be left out at the end of a line or block. -/
def expectEnd : Parse Unit := do
  let t ← current
  if isMarkToken t ";" then advance
  else
    match t.lexeme with
    | .stop => pure ()
    | _ => if isMarkToken t "\x7d" || t.newline then pure () else fault "expecting ';'"

def here : Parse Place := do
  let s ← get
  pure ⟨s.line, s.column⟩

def setColumn (column : Nat) : Parse Unit := modify fun s => { s with column }

/-- Makes the current token the place of the operations that follow. -/
def mark : Parse Unit := do
  let t ← current
  setColumn (t.start.column + 1)

def tokenText (t : Token) : String :=
  String.ofList (t.start.text.take (t.after.offset - t.start.offset))

/-- The source from a place up to the end of the last token. -/
def sourceFrom (start : Cursor) : Parse Str := do
  let s ← get
  pure (Str.ofList (start.text.take (s.last.offset - start.offset)))

/-! ## Words -/

/-- Words that never name a variable. -/
def keywords : List String :=
  ["null", "false", "true", "if", "else", "return", "var", "this", "delete", "void", "typeof", "new", "in",
    "instanceof", "do", "while", "for", "break", "continue", "switch", "case", "default", "throw", "try",
    "catch", "finally", "function", "debugger", "with", "class", "const", "enum", "export", "extends",
    "import", "super"]

/-- Words that do not name a variable in strict code. -/
def strictKeywords : List String :=
  ["implements", "interface", "let", "package", "private", "protected", "public", "static", "yield"]

def isReserved (w : String) : Parse Bool := do
  let fn ← function
  let s ← get
  pure (keywords.contains w || (fn.strict && strictKeywords.contains w)
    || (w == "yield" && (fn.coroutine = .generator || fn.coroutine = .asyncGenerator))
    || (w == "await" && (s.isModule || fn.coroutine = .async || fn.coroutine = .asyncGenerator)))

/-- The name of the current token, if it can name a variable. -/
def nameHere? : Parse (Option Str) := do
  match (← current).lexeme with
  | .word w _ => if ← isReserved w then pure none else pure (some (Str.ofString w))
  | _ => pure none

/-! ## Functions and blocks -/

/-- Reads something inside a new function, and gives what is known of the function at its end. -/
def inFunction (fn : FunctionState) (p : Parse α) : Parse (α × FunctionState) := do
  let column := (← get).column
  modify fun s => { s with functions := fn :: s.functions }
  let a ← p
  let inner ← function
  modify fun s => { s with functions := s.functions.drop 1, column }
  -- What an arrow function uses of its surroundings they use too.
  if inner.kind = .arrow then
    modifyFunction fun fn =>
      { fn with usesArguments := fn.usesArguments || inner.usesArguments
                usesEval := fn.usesEval || inner.usesEval }
  pure (a, inner)

/-- Reads something inside a new block, and gives what is known of the block at its end. -/
def inBlock (block : BlockState) (p : Parse α) : Parse (α × BlockState) := do
  modifyFunction fun fn => { fn with blocks := block :: fn.blocks }
  let a ← p
  let inner := (← function).blocks.headD {}
  modifyFunction fun fn =>
    match fn.blocks with
    | _ :: outer :: rest => { fn with blocks := { outer with vars := inner.vars ++ outer.vars } :: rest }
    | _ => fn
  pure (a, inner)

def declaredName : Declared → Str
  | .let name => name
  | .const name => name

def BlockState.declares (b : BlockState) (name : Str) : Bool := b.lexicals.any fun d => declaredName d == name

/-- Changes what is known of the innermost block. -/
def modifyBlock (f : BlockState → BlockState) : Parse Unit :=
  modifyFunction fun fn =>
    match fn.blocks with
    | b :: rest => { fn with blocks := f b :: rest }
    | [] => fn

def declareLexical (d : Declared) (isFunction : Bool) : Parse Unit := do
  let fn ← function
  let name := declaredName d
  let block := fn.blocks.headD {}
  let isBody := fn.blocks.length ≤ 1
  let again := isFunction && !fn.strict && block.functions.contains name
  if BlockState.declares block name && !again then fault "invalid redefinition of lexical identifier"
  else if ((fn.blocks.drop 1).headD {}).caught.contains name then
    fault "invalid redefinition of lexical identifier"
  else if isBody && !isFunction && fn.params.contains name then fault "invalid redefinition of parameter name"
  else if block.vars.contains name then
    fault (if fn.isTop then "invalid redefinition of global identifier" else "invalid redefinition of a variable")
  else
    modifyBlock fun b =>
      { b with lexicals := if again then b.lexicals else d :: b.lexicals
               functions := if isFunction then name :: b.functions else b.functions }

/-- Declares a name in the manner of `var`. -/
def declareVar (name : Str) : Parse Unit := do
  let fn ← function
  if fn.blocks.any fun b => BlockState.declares b name then fault "invalid redefinition of lexical identifier"
  else
    modifyBlock fun b => { b with vars := name :: b.vars }
    modifyFunction fun fn => { fn with vars := if fn.vars.contains name then fn.vars else name :: fn.vars }

/-- Declares a function at the top of a body. At the top of a source it may share its name with a
variable of the manner of `let`, which then hides it. -/
def declareFunction (name : Str) : Parse Unit := do
  let fn ← function
  let block := fn.blocks.headD {}
  if BlockState.declares block name && !fn.isTop then fault "invalid redefinition of lexical identifier"
  else
    modifyBlock fun b => { b with vars := name :: b.vars }
    modifyFunction fun fn => { fn with vars := if fn.vars.contains name then fn.vars else name :: fn.vars }

/-- Fails if a name in a pattern of a parameter is the name of a parameter already. -/
def checkParameter (mode : PatternMode) (name : Str) : Parse Unit := do
  match mode with
  | .parameter =>
    if (← function).params.contains name then fault "duplicate parameter names not allowed in this context"
  | _ => pure ()

def isRestricted (name : Str) : Bool := name == Str.ofString "eval" || name == Str.ofString "arguments"

def declareIn (mode : PatternMode) (name : Str) : Parse Unit := do
  match mode with
  | .assign => pure ()
  | .declare .var => declareVar name
  | .declare .let => declareLexical (.let name) false
  | .declare .const => declareLexical (.const name) false
  | .parameter => modifyFunction fun fn => { fn with params := name :: fn.params }
  | .caught => modifyBlock fun b => { b with caught := name :: b.caught }

def useName (name : Str) : Parse Unit := do
  if name == Str.ofString "arguments" then
    if !(← function).allowed.arguments then
      fault "'arguments' identifier is not allowed in class field initializer"
    else modifyFunction fun fn => { fn with usesArguments := true }

def usePrivate (name : Str) : Parse Unit := modify fun s => { s with privateUses := name :: s.privateUses }

/-! ## Looking past brackets -/

def beforeOperand (t : Lexeme) : Bool :=
  match t with
  | .number _ => false
  | .bigint _ => false
  | .string _ => false
  | .hidden _ => false
  | .word w _ =>
    ["return", "typeof", "case", "in", "instanceof", "new", "delete", "void", "throw", "do", "else"].contains w
  | .mark m => !([")", "]", "\x7d", "++", "--"].contains m)
  | .backtick => false
  | .stop => true

/-- What a look past brackets finds. -/
structure Past where
  /-- The token after the brackets, if they are closed. -/
  next : Option Token := none
  /-- Whether a semicolon stands directly within the brackets. -/
  hasSemicolon : Bool := false
  /-- Whether an equals sign stands anywhere within the brackets. -/
  hasEquals : Bool := false

/-- How many brackets may be open at once while a look past them is taken. -/
def maxOpenBrackets : Nat := 255

/-- Looks past the brackets that the current token opens. `stack` holds the brackets that are still
open, with a backtick for the braces of a template. -/
def pastBrackets (strict isModule : Bool) : Nat → List Char → Lexeme → Past → Token → Past
  | 0, _, _, found, _ => found
  | fuel + 1, stack, before, found, t =>
    let next (stack : List Char) (after : Cursor) (before : Lexeme) (found : Past) : Past :=
      match scan strict isModule after with
      | .ok t =>
        if stack.isEmpty then { found with next := some t }
        else pastBrackets strict isModule fuel stack before found t
      | .error _ => found
    let push (bracket : Char) (after : Cursor) (before : Lexeme) : Past :=
      if maxOpenBrackets ≤ stack.length then found else next (bracket :: stack) after before found
    let inTemplate (stack : List Char) (after : Cursor) : Past :=
      match readTemplate maxLength (some .empty) .empty after with
      | none => found
      | some part =>
        if part.isLast then next stack part.after .backtick found else push '\x60' part.after (.mark "\x7b")
    match t.lexeme with
    | .stop => found
    | .backtick => inTemplate stack t.after
    | .mark m =>
      if m == "(" || m == "[" || m == "\x7b" then push (m.toList.headD '(') t.after t.lexeme
      else if m == ")" then
        match stack with
        | '(' :: stack => next stack t.after t.lexeme found
        | _ => found
      else if m == "]" then
        match stack with
        | '[' :: stack => next stack t.after t.lexeme found
        | _ => found
      else if m == "\x7d" then
        match stack with
        | '{' :: stack => next stack t.after t.lexeme found
        | '\x60' :: stack => inTemplate stack t.after
        | _ => found
      else if m == ";" then
        next stack t.after t.lexeme { found with hasSemicolon := found.hasSemicolon || stack.length = 1 }
      else if m == "=" then next stack t.after t.lexeme { found with hasEquals := true }
      else if (m == "/" || m == "/=") && beforeOperand before then
        match readRegExp maxLength false .empty (t.start.forward 1) with
        | .ok (_, after) => next stack after (.string .empty) found
        | .error _ => found
      else next stack t.after t.lexeme found
    | lexeme => next stack t.after lexeme found

def lookPast : Parse Past := do
  let s ← get
  let strict ← isStrict
  pure (pastBrackets strict s.isModule maxLength [] (.mark "(") {} s.token)

/-- The token after the brackets that the current token opens. -/
def pastHere : Parse (Option Token) := do pure (← lookPast).next

end Parse

/-- What becomes of `**` after a unary expression. -/
inductive PowerMode
  /-- It takes the expression as its base. -/
  | allowed
  /-- It is a fault. -/
  | forbidden
  /-- It is left to what stands around the expression. -/
  | left
  deriving DecidableEq

/-- Where a statement stands, which tells the declarations that may stand in its place. -/
inductive StatementPlace
  /-- In a list of statements. -/
  | any
  /-- In a branch of sloppy code, where a function may stand too. -/
  | branch
  /-- After a label in sloppy code, where a function may stand, and further labels before it. -/
  | labelled
  /-- Where only a plain statement may stand. -/
  | plain
  deriving DecidableEq

/-- The parts of the syntax that nest in each other. -/
structure Grammar where
  /-- An assignment expression; `in` is an operator where that is allowed. -/
  assignment : Bool → Parse Expr
  unary : PowerMode → Parse Expr
  /-- An expression with its calls and members. -/
  leftHand : Parse Expr
  statement : StatementPlace → Parse Stmt
  /-- A pattern, from its opening bracket on. -/
  pattern : PatternMode → Parse Target

end BrainHost.Script
