import BrainHost.Script.Parser.Module

/-! # Programs

Reads whole programs: scripts, modules and texts that a script evaluates. -/

namespace BrainHost.Script

namespace Parse

def maxNesting : Nat := 100000

/-- The grammar, up to a depth of nesting. -/
def grammar : Nat → Grammar
  | 0 =>
    { assignment := fun _ => fault "stack overflow"
      unary := fun _ => fault "stack overflow"
      leftHand := fault "stack overflow"
      statement := fun _ => fault "stack overflow"
      pattern := fun _ => fault "stack overflow" }
  | depth + 1 =>
    { assignment := fun allowIn s => assignmentExpression (grammar depth) allowIn s
      unary := fun power s => unaryExpression (grammar depth) power s
      leftHand := fun s => leftHandSide (grammar depth) s
      statement := fun place s => statementRest (grammar depth) place s
      pattern := fun mode s => patternRest (grammar depth) mode s }

def items (item : Parse Stmt) : Nat → List Stmt → Parse (List Stmt)
  | 0, _ => fault "too many statements"
  | fuel + 1, acc => do
    match (← current).lexeme with
    | .stop => pure acc.reverse
    | _ => do items item fuel ((← item) :: acc)

end Parse

inductive ProgramKind
  | script (strict : Bool) (allowed : Allowances)
  | module
  deriving DecidableEq

/-- Where the first token of a source is looked for: after a line that starts with `#!`. -/
def sourceStart (cs : List Char) : Cursor :=
  match cs with
  | '#' :: '!' :: rest =>
    let n := Cursor.lineCommentLength rest
    { text := rest.drop n, column := n + 2, offset := n + 2 }
  | cs => { text := cs }

/-- Reads a program. `sites` is the number of the next template literal with a tag. -/
def Program.read (kind : ProgramKind) (name file : String) (sites : Nat) (source : List Char) :
    Except SyntaxFault Program := do
  let isModule := kind = .module
  let strict := match kind with
    | .script strict _ => strict
    | .module => true
  let allowed := match kind with
    | .script _ allowed => allowed
    | .module => {}
  let top : FunctionState :=
    { kind := if isModule then .module else .normal, strict, isTop := true, tracked := !isModule, allowed }
  let start := sourceStart source
  let first ← scan strict isModule start
  let state : ParserState := { token := first, last := start, functions := [top], isModule, file, sites }
  let g := Parse.grammar Parse.maxNesting
  let program : Parse (List Stmt) := do
    let _ ← Parse.useStrict
    let body ← Parse.items (if isModule then Parse.moduleItem g else g.statement .any) maxLength []
    match (← get).privateUses.getLast? with
    | some name =>
      if allowed = {} then Parse.faultNowhere s!"undefined private field '#{name.toText}'" else pure body
    | none => pure body
  let (body, state) ← program state
  let fn := state.functions.headD {}
  let info : FunctionInfo :=
    { name := name, kind := fn.kind, coroutine := if isModule then .async else .none, strict := fn.strict
      length := 0, simple := true, paramNames := [], vars := fn.vars.reverse
      lexicals := (fn.blocks.headD {}).lexicals.reverse, usesArguments := fn.usesArguments
      usesEval := fn.usesEval, selfName := false, file, start := ⟨1, 1⟩, lastLine := state.token.start.line
      source := .empty, allowed }
  pure
    { main := .mk info [] body
      exports := state.exports.reverse
      requests := state.requests.reverse
      sites := state.sites }

/-- The first export of a variable that the module does not declare. -/
def Program.missingExport? (p : Program) : Option Str :=
  match p.main with
  | .mk info _ _ =>
    (p.exports.find? fun e => !e.binding.isEmpty && !info.vars.contains e.binding
      && !info.lexicals.any fun d => Parse.declaredName d == e.binding).map Export.binding

end BrainHost.Script
