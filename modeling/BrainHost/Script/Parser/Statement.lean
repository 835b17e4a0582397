import BrainHost.Script.Parser.Expression

/-! # Statements

Reads statements and the declarations among them. -/

namespace BrainHost.Script

namespace Parse

/-- Whether `let` starts a declaration here. -/
def atLet (allowed : Bool) : Parse Bool := do
  let t ← current
  if !isWordToken t "let" then pure false
  else if ← isStrict then pure true
  else
    match ← peek with
    | none => pure false
    | some next =>
      match next.lexeme with
      | .mark m => pure (m == "[" || (m == "\x7b" && (allowed || !next.newline)))
      | .word w _ => do
        pure ((!(← isReserved w) || w == "let" || w == "yield" || w == "await") && (allowed || !next.newline))
      | _ => pure false

def declarationKind (w : String) : DeclarationKind :=
  if w == "var" then .var else if w == "const" then .const else .let

def declarationName (kind : DeclarationKind) : Parse (Target × Str) := do
  match ← nameHere? with
  | none => fault "variable name expected"
  | some name =>
    let t ← current
    if kind ≠ .var && name == Str.ofString "let" then fault "'let' is not a valid lexical identifier"
    else
      advance
      if (← isStrict) && isRestricted name then fault "invalid variable name in strict mode"
      declareIn (.declare kind) name
      pure (.name name ⟨t.start.line, t.start.column + 1⟩, name)

def declaration (g : Grammar) (kind : DeclarationKind) (allowIn : Bool) : Parse Stmt := do
  if (← atMark "[") || (← atMark "\x7b") then
    match ← pastHere with
    | some next =>
      if isMarkToken next "=" then
        let target ← g.pattern (.declare kind)
        expect "="
        let place ← here
        pure (.declare kind target (← g.assignment allowIn) place)
      else fault "variable name expected"
    | none => fault "variable name expected"
  else
    let (target, name) ← declarationName kind
    if ← takeMark "=" then
      let e ← g.assignment allowIn
      pure (.declare kind target (nameAnonymous name e) (← here))
    else
      match kind with
      | .const => fault "missing initializer for const variable"
      | kind => do pure (.declare kind target .missing (← here))

/-- Reads declarations after their word. -/
def declarations (g : Grammar) (kind : DeclarationKind) (allowIn : Bool) :
    Nat → List Stmt → Parse (List Stmt)
  | 0, _ => fault "too many declarations"
  | fuel + 1, acc => do
    let acc := (← declaration g kind allowIn) :: acc
    if ← takeMark "," then declarations g kind allowIn fuel acc else pure acc.reverse

def together : List Stmt → Stmt
  | [s] => s
  | ss => .block [] ss

def blockBody (g : Grammar) : Parse (List Stmt × List Declared) := do
  expect "\x7b"
  let (body, block) ← inBlock {} (statementsUntilBrace g maxLength [])
  advance
  pure (body, block.lexicals.reverse)

def loopBody (g : Grammar) : Parse Stmt := do
  modifyFunction fun fn => { fn with loops := fn.loops + 1 }
  let body ← g.statement .plain
  modifyFunction fun fn => { fn with loops := fn.loops - 1 }
  pure body

def isTracked : Parse Bool := do pure (← function).tracked

/-- Reads the rest of a loop over keys or items from `in` or `of` on. -/
def forEachRest (g : Grammar) (isOf isAsync : Bool) (kind : Option DeclarationKind) (target : Target) (init : Expr) :
    Parse Stmt := do
  advance
  let e ← if isOf then g.assignment true else expression g true
  let place ← here
  expect ")"
  let tracked ← isTracked
  let body ← loopBody g
  pure (if isOf then .forOf isAsync kind [] target e body place tracked
    else .forIn kind [] target init e body place tracked)

/-- Reads the rest of a counting loop after its first part. -/
def forCountRest (g : Grammar) (init : List Stmt) (fresh : List Str) : Parse Stmt := do
  expect ";"
  let test ← if ← atMark ";" then pure .missing else expression g true
  expect ";"
  let update ← if ← atMark ")" then pure .missing else expression g true
  expect ")"
  let tracked ← isTracked
  let body ← loopBody g
  pure (.forLoop [] init fresh test update body tracked)

def withLexicals (ds : List Declared) : Stmt → Stmt
  | .forLoop _ init fresh test update body tracked =>
    let names := ds.filterMap fun d =>
      match d with
      | .let name => some name
      | .const _ => none
    .forLoop ds init (if fresh.isEmpty then [] else names) test update body tracked
  | .forIn kind _ target init e body place tracked => .forIn kind ds target init e body place tracked
  | .forOf isAsync kind _ target e body place tracked => .forOf isAsync kind ds target e body place tracked
  | s => s

def atLoopDeclaration : Parse Bool := do
  if (← atWord "var") || (← atWord "const") then pure true else atLet true

/-- Reads the target of a loop over items or keys and an initial value after it. Gives too whether a
declaration holds a pattern. -/
def forEachTarget (g : Grammar) (kind : Option DeclarationKind) : Parse (Target × Expr × Bool) := do
  let t ← current
  let isBracket := isMarkToken t "[" || isMarkToken t "\x7b"
  match kind with
  | some kind =>
    let (target, name) ←
      if isBracket then do pure (← g.pattern (.declare kind), none)
      else do
        let (target, name) ← declarationName kind
        pure (target, some name)
    let init ← if ← atMark "=" then do
        advance
        let e ← g.assignment false
        pure (match name with
          | some n => nameAnonymous n e
          | none => e)
      else pure .missing
    pure (target, init, name.isNone)
  | none =>
    let isPattern ←
      if isBracket then
        match ← pastHere with
        | some next => pure (isWordToken next "of" || isWordToken next "in")
        | none => pure false
      else pure false
    if isPattern then do pure (← g.pattern .assign, .missing, false)
    else
      let startsAsync ← do
        if isWordToken t "async" then
          let next ← peek
          pure ((next.map fun next => isWordToken next "of").getD false)
        else pure false
      if startsAsync then fault "'for of' expression cannot start with 'async'"
      else
        let e ← g.leftHand
        let target ← targetOf "invalid for in/of left hand-side" e
        let init ← if ← takeMark "=" then g.assignment false else pure .missing
        pure (target, init, false)

/-- The fault of an initial value in the head of a loop over items or keys. -/
def initializerFault (w : String) : Parse Stmt :=
  fault ("a declaration in the head of a for-" ++ w ++ " loop can't have an initializer")

/-- Reads the head of a loop over items or keys and its body. -/
def forEach (g : Grammar) (isAsync : Bool) : Parse Stmt := do
  let kind ←
    if ← atLoopDeclaration then do
      let kind := declarationKind (tokenText (← current))
      advance
      if (← nameHere?).isNone && !(← atMark "[") && !(← atMark "\x7b") then fault "variable name expected"
      pure (some kind)
    else pure none
  let (target, init, hasPattern) ← forEachTarget g kind
  let hasInit := match init with
    | .missing => false
    | _ => true
  if ← atWord "of" then
    if hasInit then initializerFault "of" else forEachRest g true isAsync kind target .missing
  else if ← atWord "in" then
    if isAsync then fault "'for await' loop should be used with 'of'"
    else if hasInit && (kind ≠ some .var || (← isStrict) || hasPattern) then initializerFault "in"
    else forEachRest g false isAsync kind target init
  else fault "expected 'of' or 'in' in for control expression"

/-- Reads the head of a loop with three parts and its body. -/
def forCount (g : Grammar) : Parse Stmt := do
  if ← atMark ";" then forCountRest g [] []
  else if ← atLoopDeclaration then
    let kind := declarationKind (tokenText (← current))
    advance
    let ds ← declarations g kind false maxLength []
    forCountRest g ds (if kind = .let then [Str.empty] else [])
  else
    let e ← expression g false
    forCountRest g [.expression e false] []

/-- Reads a `for` loop after its word. A semicolon in the parentheses tells that it has three parts. -/
def forStatement (g : Grammar) : Parse Stmt := do
  let hasSemicolon ← if ← atMark "(" then do pure (← lookPast).hasSemicolon else pure false
  let isAsync ←
    if !(← atWord "await") || !(← knowsAwait) then pure false
    else if ← awaits then do
      advance
      pure true
    else fault "for await is only valid in asynchronous functions"
  expect "("
  let (s, block) ← inBlock {} (if hasSemicolon then forCount g else forEach g isAsync)
  pure (withLexicals block.lexicals.reverse s)

def caseBody (g : Grammar) : Nat → List Stmt → Parse (List Stmt)
  | 0, _ => fault "too many statements"
  | fuel + 1, acc => do
    if (← atMark "\x7d") || (← atWord "case") || (← atWord "default") then pure acc.reverse
    else caseBody g fuel ((← g.statement .any) :: acc)

/-- Reads the cases of a switch up to the closing brace, which stays. -/
def cases (g : Grammar) : Nat → Bool → List Case → Parse (List Case)
  | 0, _, _ => fault "too many cases"
  | fuel + 1, hasDefault, acc => do
    if ← atMark "\x7d" then pure acc.reverse
    else if ← takeWord "case" then
      let test ← expression g true
      expect ":"
      let body ← caseBody g maxLength []
      cases g fuel hasDefault (.mk (some test) body :: acc)
    else if ← takeWord "default" then
      expect ":"
      if hasDefault then fault "duplicate default"
      else
        let body ← caseBody g maxLength []
        cases g fuel true (.mk none body :: acc)
    else fault "invalid switch statement"

/-- Reads a `switch` statement after its word. -/
def switchStatement (g : Grammar) : Parse Stmt := do
  expect "("
  let value ← expression g true
  expect ")"
  expect "\x7b"
  let tracked ← isTracked
  modifyFunction fun fn => { fn with switches := fn.switches + 1 }
  let (cs, block) ← inBlock {} (cases g maxLength false [])
  modifyFunction fun fn => { fn with switches := fn.switches - 1 }
  expect "\x7d"
  pure (.switch value block.lexicals.reverse cs tracked)

/-- Reads a `try` statement after its word. -/
def tryStatement (g : Grammar) : Parse Stmt := do
  let tracked ← isTracked
  let (body, lexicals) ← blockBody g
  let handler ←
    if ← takeWord "catch" then do
      let ((target, inner, innerLexicals), block) ← inBlock {} do
        let target ←
          if !(← atMark "\x7b") then do
            expect "("
            let (target, _) ← do
              if (← atMark "[") || (← atMark "\x7b") then pure (← g.pattern .caught, none)
              else
                match ← nameHere? with
                | some _ => patternTarget g .caught
                | none => fault "identifier expected"
            expect ")"
            pure (some target)
          else pure none
        let (inner, innerLexicals) ← blockBody g
        pure (target, inner, innerLexicals)
      pure (some (Handler.mk target block.caught.reverse innerLexicals inner))
    else pure none
  let cleanup ←
    if ← takeWord "finally" then do
      let (body, lexicals) ← blockBody g
      pure (some (CleanUp.mk lexicals body))
    else pure none
  if handler.isNone && cleanup.isNone then fault "expecting catch or finally"
  else pure (.tryCatch body lexicals handler cleanup tracked)

/-- Reads `break` or `continue` after its word. -/
def jumpStatement (isBreak : Bool) : Parse Stmt := do
  let fn ← function
  let t ← current
  let label ←
    if t.newline then pure none else nameHere?
  match label with
  | some name =>
    match fn.labels.find? fun l => l.1 == name with
    | none => fault "break/continue label not found"
    | some (_, isLoop) =>
      if !isBreak && !isLoop then fault "break/continue label not found"
      else
        advance
        expectEnd
        pure (if isBreak then .breakTo name else .continueTo name)
  | none =>
    if isBreak then
      if fn.loops = 0 && fn.switches = 0 then fault "break must be inside loop or switch"
      else
        expectEnd
        pure (.breakTo .empty)
    else if fn.loops = 0 then fault "continue must be inside loop"
    else
      expectEnd
      pure (.continueTo .empty)

def functionStatement (g : Grammar) : Parse Stmt := do
  let fn ← function
  let isBody := fn.blocks.length ≤ 1
  let declare (name : Str) (plain : Bool) : Parse Unit := do
    if isBody then declareFunction name
    else declareLexical (.let name) plain
  let (name, f) ← functionDeclaration g declare none
  if isBody then pure (.function f false)
  else
    -- In sloppy code the variable of the function around gets the function too, where that is no
    -- redefinition.
    let fn ← function
    let hoists := !fn.strict
      && (match f with
        | .mk info _ _ => info.coroutine = .none)
      && !((fn.blocks.drop 1).any fun b => BlockState.declares b name) && !fn.params.contains name
    if hoists then
      modifyFunction fun fn => { fn with vars := if fn.vars.contains name then fn.vars else name :: fn.vars }
    pure (.function f hoists)

def classStatement (g : Grammar) : Parse Stmt := do
  let (name, c) ← classRest g true none
  let name := name.getD .empty
  declareLexical (.let name) false
  pure (.classOf name c)

def labelHere? : Parse (Option Str) := do
  match ← nameHere? with
  | none => pure none
  | some name =>
    match ← peek with
    | some next => pure (if isMarkToken next ":" then some name else none)
    | none => pure none

/-- Whether a statement after labels is a loop. -/
def atLoop : Parse Bool := do pure ((← atWord "for") || (← atWord "while") || (← atWord "do"))

def expressionStatement (g : Grammar) : Parse Stmt := do
  let e ← expression g true
  expectEnd
  pure (.expression e (← isTracked))

/-- The fault of a function where only a plain statement may stand. -/
def functionFault : Parse Stmt := fault "function declarations can't appear in single-statement context"

/-- The fault of a loop without `while` after its body. The word has no character of its own: a
replacement character takes its place and that of the quote after it. -/
def whileExpected : String := "expecting '\ufffd"

def wordStatement (g : Grammar) (place : StatementPlace) (w : String) : Parse Stmt := do
  let allowed := place = .any
  if w == "return" then
    if (← function).isTop || (← function).kind = .initializer then fault "return not in a function"
    else
      advance
      let t ← current
      let bare := t.newline || isMarkToken t ";" || isMarkToken t "\x7d" || (match t.lexeme with
        | .stop => true
        | _ => false)
      let e ← if bare then pure .missing else expression g true
      expectEnd
      pure (.returns e)
  else if w == "throw" then
    advance
    if (← current).newline then fault "line terminator not allowed after throw"
    else
      let e ← expression g true
      let place ← here
      expectEnd
      pure (.throws e place)
  else if w == "var" || w == "const" then
    if w == "const" && !allowed then
      fault "lexical declarations can't appear in single-statement context"
    else
      advance
      let ds ← declarations g (declarationKind w) true maxLength []
      expectEnd
      pure (together ds)
  else if w == "if" then
    let tracked ← isTracked
    advance
    expect "("
    let test ← expression g true
    expect ")"
    let place := if ← isStrict then StatementPlace.plain else .branch
    let whenTrue ← g.statement place
    let whenFalse ← if ← takeWord "else" then g.statement place else pure .empty
    pure (.branch test whenTrue whenFalse tracked)
  else if w == "while" then
    let tracked ← isTracked
    advance
    expect "("
    let test ← expression g true
    expect ")"
    pure (.whileLoop test (← loopBody g) tracked)
  else if w == "do" then
    let tracked ← isTracked
    advance
    let body ← loopBody g
    if ← takeWord "while" then
      expect "("
      let test ← expression g true
      expect ")"
      -- The semicolon after the loop may be left out in any case.
      let _ ← takeMark ";"
      pure (.doLoop body test tracked)
    else fault whileExpected
  else if w == "for" then
    advance
    forStatement g
  else if w == "break" then
    advance
    jumpStatement true
  else if w == "continue" then
    advance
    jumpStatement false
  else if w == "switch" then
    advance
    switchStatement g
  else if w == "try" then
    advance
    tryStatement g
  else if w == "with" then
    if ← isStrict then fault "invalid keyword: with"
    else
      advance
      expect "("
      let e ← expression g true
      let place ← here
      expect ")"
      modifyFunction fun fn => { fn with usesEval := true, usesArguments := true }
      pure (.withObject e (← g.statement .plain) place)
  else if w == "function" then
    let next ← peek
    let isGenerator := (next.map fun next => isMarkToken next "*").getD false
    match place with
    | .any => functionStatement g
    | .labelled => if isGenerator then functionFault else functionStatement g
    | .branch =>
      if isGenerator then functionFault
      else
        let (s, block) ← inBlock {} (functionStatement g)
        pure (.block block.lexicals.reverse [s])
    | .plain => functionFault
  else if w == "class" then
    if allowed then classStatement g else fault "class declarations can't appear in single-statement context"
  else if w == "debugger" then
    advance
    expectEnd
    pure .debugger
  else if w == "enum" || w == "export" || w == "extends" then fault s!"unsupported keyword: {w}"
  else if ← atAsyncFunction then
    if allowed then functionStatement g else functionFault
  else if ← atLet allowed then
    if !allowed then fault "lexical declarations can't appear in single-statement context"
    else
      advance
      let ds ← declarations g .let true maxLength []
      expectEnd
      pure (together ds)
  else
    match ← labelHere? with
    | some name =>
      if (← function).labels.any fun l => l.1 == name then fault "duplicate label name"
      else
        advance
        advance
        let isLoop ← atLoop
        modifyFunction fun fn => { fn with labels := (name, isLoop) :: fn.labels }
        let strict ← isStrict
        let below :=
          if isLoop then place
          else if (place = .any || place = .labelled) && !strict then .labelled
          else .plain
        let body ← g.statement below
        modifyFunction fun fn => { fn with labels := fn.labels.drop 1 }
        pure (.labelled name body)
    | none => expressionStatement g

def statementRest (g : Grammar) (place : StatementPlace) : Parse Stmt := do
  let t ← current
  match t.lexeme with
  | .mark m =>
    if m == "\x7b" then
      let (body, lexicals) ← blockBody g
      pure (.block lexicals body)
    else if m == ";" then
      advance
      pure .empty
    else expressionStatement g
  | .word w false => wordStatement g place w
  | _ => expressionStatement g

end Parse

end BrainHost.Script
