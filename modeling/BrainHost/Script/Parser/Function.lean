import BrainHost.Script.Parser.State

/-! # Functions and classes

Reads parameters, bodies and the elements of classes. -/

namespace BrainHost.Script

namespace Parse

/-- Gives a function or class without a name the name of what it is assigned to. -/
def nameAnonymous (name : Str) : Expr → Expr
  | .function (.mk info params body) =>
    if info.name.isEmpty then .function (.mk { info with name } params body) else .function (.mk info params body)
  | .classOf (.mk info parent constructor elements) =>
    if info.hasName || !info.name.isEmpty then .classOf (.mk info parent constructor elements)
    else .classOf (.mk { info with name } parent constructor elements)
  | e => e

def commaTail (g : Grammar) (allowIn : Bool) : Nat → Expr → Parse Expr
  | 0, _ => fault "too many expressions"
  | fuel + 1, e => do
    if ← takeMark "," then do
      let next ← g.assignment allowIn
      commaTail g allowIn fuel (.sequence e next)
    else pure e

def expression (g : Grammar) (allowIn : Bool) : Parse Expr := do
  commaTail g allowIn maxLength (← g.assignment allowIn)

/-- Reads a default after its target, if there is one. -/
def fallback (g : Grammar) (name : Option Str) : Parse Expr := do
  if ← takeMark "=" then
    let e ← g.assignment true
    pure (match name with
      | some n => nameAnonymous n e
      | none => e)
  else pure .missing

def parameterTarget (g : Grammar) : Parse (Target × Option Str) := do
  if (← atMark "[") || (← atMark "\x7b") then pure (← g.pattern .parameter, none)
  else
    match ← nameHere? with
    | some name =>
      let fn ← function
      if fn.parameterScope && fn.params.contains name then
        fault "invalid redefinition of lexical identifier"
      else
        let t ← current
        declareIn .parameter name
        advance
        pure (.name name ⟨t.start.line, t.start.column + 1⟩, some name)
    | none => fault "missing formal parameter"

/-- Reads parameters up to the closing parenthesis, which stays. -/
def parameters (g : Grammar) : Nat → List Parameter → Parse (List Parameter)
  | 0, _ => fault "too many arguments"
  | fuel + 1, acc => do
    if ← atMark ")" then pure acc.reverse
    else if ← takeMark "..." then
      let (target, _) ← parameterTarget g
      if ← atMark ")" then pure (Parameter.mk target .missing true :: acc).reverse
      else fault "expecting ')'"
    else
      let (target, name) ← parameterTarget g
      let e ← fallback g name
      let acc := Parameter.mk target e false :: acc
      if ← atMark ")" then pure acc.reverse
      else
        expect ","
        parameters g fuel acc

/-- Whether a parameter is a name without a default. -/
def isPlainParameter : Parameter → Bool
  | .mk (.name _ _) .missing false => true
  | _ => false

/-- Whether a parameter is a pattern that takes the rest of the arguments. -/
def isRestPattern : Parameter → Bool
  | .mk (.name _ _) _ _ => false
  | .mk _ _ isRest => isRest

def countsInLength : Parameter → Bool
  | .mk _ .missing false => true
  | _ => false

/-- Whether a string before a token is a statement of its own. -/
def endsDirective (next : Token) : Bool :=
  match next.lexeme with
  | .stop => true
  | .mark m => m == ";" || m == "\x7d" || ((m == "++" || m == "--") && next.newline)
  | .word w escaped => next.newline && (escaped || !(["in", "instanceof", "else", "void"].contains w))
  | _ => next.newline

/-- Whether one of the strings with which code starts makes it strict. -/
def directives : Nat → Bool → Parse Bool
  | 0, found => pure found
  | fuel + 1, found => do
    let t ← current
    match t.lexeme with
    | .string _ =>
      advance
      if endsDirective (← current) then
        let _ ← takeMark ";"
        directives fuel (found || ["'use strict'", "\"use strict\""].contains (tokenText t))
      else pure found
    | _ => pure found

/-- Makes the code strict if it says so, and gives whether it does. The strings with which it
starts are read as statements later. -/
def useStrict : Parse Bool := do
  let s ← get
  let found ← directives maxLength false
  modify fun _ => s
  if found then
    modifyFunction fun fn => { fn with strict := true }
  pure found

/-- Reads statements up to a closing brace, which stays. -/
def statementsUntilBrace (g : Grammar) : Nat → List Stmt → Parse (List Stmt)
  | 0, _ => fault "too many statements"
  | fuel + 1, acc => do
    if ← atMark "\x7d" then pure acc.reverse
    else statementsUntilBrace g fuel ((← g.statement .any) :: acc)

/-- Whether a name occurs twice. -/
def hasRepeated (names : List Str) : Bool := names.eraseDups.length ≠ names.length

/-- What is wrong with the names of a function and its parameters, given whether its own body makes
it strict. -/
def nameFault? (fn : FunctionState) (name : Str) (simple declaresStrict : Bool) : Option String :=
  if fn.strict && !simple && declaresStrict then
    some "\"use strict\" not allowed in function with default or destructuring parameter"
  else if fn.strict && fn.kind = .normal && isRestricted name then some "invalid function name in strict code"
  else if fn.strict && fn.params.any isRestricted then some "invalid argument name in strict code"
  else if (fn.strict || !simple || fn.kind ≠ .normal) && hasRepeated fn.params then
    some "duplicate argument names not allowed in this context"
  else none

/-- What the code of a function may use of its call, given what the code around may use. -/
def allowancesOf (kind : FunctionKind) (outer : Allowances) : Allowances :=
  match kind with
  | .arrow => outer
  | .normal => { newTarget := true }
  | .initializer => { newTarget := true, superMember := true, arguments := false }
  | kind => { newTarget := true, superCall := kind = .derivedConstructor, superMember := true }

def functionRest (g : Grammar) (start : Cursor) (kind : FunctionKind) (coroutine : Coroutine) (name : Str)
    (selfName : Bool) : Parse Function := do
  let outer ← function
  let first ← current
  let place : Place := ⟨first.start.line, first.start.column + 1⟩
  let file := (← get).file
  let allowed := allowancesOf kind outer.allowed
  let state : FunctionState := { kind, coroutine, strict := outer.strict, allowed, inBody := false }
  let ((params, body, endsWithBrace), inner) ← inFunction state do
    setColumn place.column
    let params ←
      if kind = .arrow && !(← atMark "(") then do
        let (target, _) ← parameterTarget g
        pure [Parameter.mk target .missing false]
      else
        if ← atMark "(" then
          let past ← lookPast
          modifyFunction fun fn => { fn with parameterScope := past.hasEquals }
        expect "("
        let params ← parameters g maxLength []
        -- A rest in a pattern is no parameter that an accessor counts.
        let count := (params.filter fun p => !isRestPattern p).length
        match kind with
        | .getter => if count ≠ 0 then fault "invalid number of arguments for getter or setter" else pure ()
        | .setter => if count ≠ 1 then fault "invalid number of arguments for getter or setter" else pure ()
        | _ => pure ()
        advance
        pure params
    let simple := params.all isPlainParameter
    modifyFunction fun fn => { fn with inBody := true }
    if kind = .arrow then expect "=>"
    if kind = .arrow && !(← atMark "\x7b") then
      match nameFault? (← function) name simple false with
      | some message => fault message
      | none =>
        let e ← g.assignment true
        pure (params, [Stmt.returns e], false)
    else
      expect "\x7b"
      let declaresStrict ← useStrict
      match nameFault? (← function) name simple declaresStrict with
      | some message => fault message
      | none =>
        let body ← statementsUntilBrace g maxLength []
        pure (params, body, true)
  let stop ← current
  let line := (← get).line
  let lastLine := if endsWithBrace then stop.start.line else line
  if endsWithBrace then advance
  let source ← sourceFrom start
  let body? := inner.blocks.headD {}
  pure (.mk
    { name, kind, coroutine, strict := inner.strict, selfName, file, start := place, lastLine, source, allowed
      length := (params.takeWhile countsInLength).length
      simple := params.all isPlainParameter
      paramNames := inner.params.reverse
      vars := inner.vars.reverse
      lexicals := body?.lexicals.reverse
      usesArguments := inner.usesArguments
      usesEval := inner.usesEval }
    params body)

/-- The coroutine of a function that is asynchronous or a generator. -/
def coroutineOf (isAsync isGenerator : Bool) : Coroutine :=
  if isAsync then if isGenerator then .asyncGenerator else .async
  else if isGenerator then .generator else .none

/-- Reads a function expression whose first token is the current one. -/
def functionExpression (g : Grammar) : Parse Expr := do
  let start := (← current).start
  let isAsync ← takeWord "async"
  advance
  let isGenerator ← takeMark "*"
  let coroutine := coroutineOf isAsync isGenerator
  -- The name of the function is a name of its own body.
  let name ← do
    match (← current).lexeme with
    | .word w _ =>
      if ← atMark "(" then pure none
      else
        let reserved := keywords.contains w || ((← isStrict) && strictKeywords.contains w)
          || (w == "yield" && isGenerator) || (w == "await" && isAsync)
        if reserved then fault "function name expected"
        else
          advance
          pure (some (Str.ofString w))
    | _ => pure none
  if name.isNone && !(← atMark "(") then fault "function name expected"
  else
    let f ← functionRest g start .normal coroutine (name.getD .empty) name.isSome
    pure (.function f)

/-- Reads a function declaration whose first token is the current one: its name and the function. -/
def functionDeclaration (g : Grammar) (declare : Str → Bool → Parse Unit) (nameless : Option Str) :
    Parse (Str × Function) := do
  let start := (← current).start
  let isAsync ← takeWord "async"
  advance
  let isGenerator ← takeMark "*"
  let coroutine := coroutineOf isAsync isGenerator
  match ← nameHere? with
  | some name =>
    advance
    declare name (coroutine = .none)
    pure (name, ← functionRest g start .normal coroutine name false)
  | none =>
    match nameless with
    | some name => pure (name, ← functionRest g start .normal coroutine name false)
    | none => fault "function name expected"

def atAsyncFunction : Parse Bool := do
  if ← atWord "async" then
    match ← peek with
    | some next => pure (isWordToken next "function" && !next.newline)
    | none => pure false
  else pure false

/-! ## Members -/

/-- The text of a key, as it names a function. -/
def keyName : Key → Str
  | .index n => Str.ofString (toString n)
  | .name s => s
  | .symbol _ => .empty

/-- The text of a number, as it is a key. -/
def numberName (x : Float) : Str := Str.ofString (Number.text x)

/-- The key of an array index or another string. -/
def keyOf (s : Str) : Key :=
  if s.size = 0 || 10 < s.size || !s.units.all (isDigitOf 10) then .name s
  else
    let n := numberOf 10 s.units.toList
    if s.units[0]? == some (unitOf '0') && 1 < s.size then .name s
    else if n < Nat.pow 2 32 - 1 then .index n else .name s

def memberName (g : Grammar) (hidden : Bool) : Parse MemberName := do
  let t ← current
  match t.lexeme with
  | .word w _ =>
    advance
    pure (.fixed (.name (Str.ofString w)))
  | .string s =>
    advance
    pure (.fixed (keyOf s))
  | .number x =>
    advance
    pure (.fixed (keyOf (numberName x)))
  | .bigint n =>
    advance
    pure (.fixed (keyOf (Str.ofString (toString n))))
  | .hidden name =>
    if hidden then
      advance
      pure (.hidden (Str.ofString name))
    else fault "invalid property name"
  | .mark m =>
    if m == "[" then
      advance
      let e ← expression g true
      let place ← here
      expect "]"
      pure (.computed e place)
    else fault "invalid property name"
  | _ => fault "invalid property name"

def functionNameOf (accessor : String) : MemberName → Str
  | .fixed k => Str.ofString accessor ++ keyName k
  | .computed _ _ => .empty
  | .hidden name => Str.ofString accessor ++ Str.ofString "#" ++ name

/-- Whether the current token ends a member's name, so that a word before it was the name. -/
def endsMemberName : Parse Bool := do
  let t ← current
  match t.lexeme with
  | .mark m => pure (["(", ",", ":", "=", "\x7d"].contains m)
  | _ => pure false

/-- What stands before the name of a method. -/
structure MethodMarks where
  isAsync : Bool := false
  isGenerator : Bool := false
  accessor : Option Bool := none

/-- Reads what stands before the name of a method. Gives the name already if the word was one. -/
def methodMarks : Parse (MethodMarks × Option MemberName) := do
  let t ← current
  let isAsync ←
    if isWordToken t "async" then
      let next ← peek
      pure !((next.map Token.newline).getD false)
    else pure false
  if isWordToken t "get" || isWordToken t "set" || isAsync then
    advance
    if ← endsMemberName then
      pure ({}, some (.fixed (.name (Str.ofString (tokenText t)))))
    else if isWordToken t "get" then pure ({ accessor := some true }, none)
    else if isWordToken t "set" then pure ({ accessor := some false }, none)
    else
      let isGenerator ← takeMark "*"
      pure ({ isAsync := true, isGenerator }, none)
  else if ← takeMark "*" then pure ({ isGenerator := true }, none)
  else pure ({}, none)

/-- Whether a mark stands before the name of a method. -/
def MethodMarks.isMarked (marks : MethodMarks) : Bool :=
  marks.accessor.isSome || marks.isAsync || marks.isGenerator

/-- Reads the name of a member with what stands before it. After a marked name the parameters must
follow. -/
def markedName (g : Grammar) (hidden : Bool) : Parse (MethodMarks × MemberName) := do
  let (marks, known) ← methodMarks
  let name ← match known with
    | some n => pure n
    | none => memberName g hidden
  if marks.isMarked && !(← atMark "(") then fault "invalid property name" else pure (marks, name)

/-- Reads the function of a method, getter or setter. -/
def methodRest (g : Grammar) (start : Cursor) (marks : MethodMarks) (name : MemberName) : Parse Member := do
  match marks.accessor with
  | some true => do
    pure (.getter name (← functionRest g start .getter .none (functionNameOf "get " name) false))
  | some false => do
    pure (.setter name (← functionRest g start .setter .none (functionNameOf "set " name) false))
  | none => do
    let coroutine := coroutineOf marks.isAsync marks.isGenerator
    pure (.method name (← functionRest g start .method coroutine (functionNameOf "" name) false))

/-! ## Classes -/

def isNamed (name : MemberName) (w : String) : Bool :=
  match name with
  | .fixed (.name s) => s == Str.ofString w
  | _ => false

/-- Reads the initializer of a field, if there is one. -/
def fieldInitializer (g : Grammar) (start : Cursor) (name : MemberName) : Parse (Option Function) := do
  if ← atMark "=" then
    let first ← current
    let place : Place := ⟨first.start.line, first.start.column + 1⟩
    let file := (← get).file
    let allowed := allowancesOf .initializer {}
    let (e, inner) ← inFunction { kind := .initializer, strict := true, allowed } do
      advance
      g.assignment true
    let label := match name with
      | .fixed k => keyName k
      | .hidden n => Str.ofString "#" ++ n
      | .computed _ _ => .empty
    let lastLine := (← get).line
    let source ← sourceFrom start
    pure (some (.mk
      { name := .empty, kind := .initializer, coroutine := .none, strict := true, length := 0, simple := true
        paramNames := [], vars := [], lexicals := [], usesArguments := inner.usesArguments
        usesEval := inner.usesEval, selfName := false, file, start := place, lastLine, source, allowed }
      [] [.returns (nameAnonymous label e)]))
  else pure none

/-- Reads a block that runs when its class is made. -/
def staticBlock (g : Grammar) (start : Cursor) : Parse Function := do
  let first ← current
  let place : Place := ⟨first.start.line, first.start.column + 1⟩
  let file := (← get).file
  let allowed := allowancesOf .initializer {}
  let (body, inner) ← inFunction { kind := .initializer, strict := true, allowed } do
    expect "\x7b"
    statementsUntilBrace g maxLength []
  let lastLine := (← current).start.line
  advance
  let source ← sourceFrom start
  pure (.mk
    { name := .empty, kind := .initializer, coroutine := .none, strict := true, length := 0, simple := true
      paramNames := [], vars := inner.vars.reverse, lexicals := (inner.blocks.headD {}).lexicals.reverse
      usesArguments := inner.usesArguments, usesEval := inner.usesEval, selfName := false, file
      start := place, lastLine, source, allowed }
    [] body)

/-- What the elements of a class are, with the constructor apart. -/
structure ClassParts where
  constructor : Option Function := none
  elements : List ClassElement := []
  /-- The private names so far: which of them have a getter or setter only, and whether on the class
  itself. -/
  hidden : List (Str × Option Bool × Bool) := []

/-- The private names of a class with one more, unless it is there already. A getter and a setter
share a name. -/
def withHidden (hidden : List (Str × Option Bool × Bool)) (name : Str) (accessor : Option Bool)
    (isStatic : Bool) : Parse (List (Str × Option Bool × Bool)) :=
  match hidden.find? fun p => p.1 == name with
  | none => pure ((name, accessor, isStatic) :: hidden)
  | some (_, known, wasStatic) =>
    match known, accessor with
    | some a, some b =>
      if a ≠ b && wasStatic = isStatic then
        pure (hidden.map fun p => if p.1 == name then (name, none, isStatic) else p)
      else fault "private class field is already defined"
    | _, _ => fault "private class field is already defined"

/-- Whether a class refuses a member because of its name. -/
def isRefusedMember (isStatic : Bool) (marks : MethodMarks) (name : MemberName) : Bool :=
  (isNamed name "constructor" && !isStatic && marks.isMarked) || (isNamed name "prototype" && isStatic)
    || (match name with
      | .hidden n => n == Str.ofString "constructor"
      | _ => false)

def classElement (g : Grammar) (hasParent : Bool) (name : Str) (parts : ClassParts) : Parse ClassParts := do
  let start := (← current).start
  let isStatic ←
    if ← atWord "static" then
      match ← peek with
      | some next =>
        if isMarkToken next "(" || isMarkToken next "=" || isMarkToken next ";" || isMarkToken next "\x7d" then pure false
        else
          advance
          pure true
      | none => pure false
    else pure false
  if isStatic && (← atMark "\x7b") then
    let f ← staticBlock g start
    pure { parts with elements := .block f :: parts.elements }
  else
    let (marks, member) ← markedName g true
    if isRefusedMember isStatic marks member then fault "invalid method name"
    else
      let isField ← do pure !(← atMark "(")
      if isField && (isNamed member "constructor" || isNamed member "prototype") then fault "invalid field name"
      else
        let hidden ← match member with
          | .hidden n => withHidden parts.hidden n marks.accessor isStatic
          | _ => pure parts.hidden
        let parts := { parts with hidden }
        if isField then
          let initializer ← fieldInitializer g start member
          expectEnd
          pure { parts with elements := .field isStatic member initializer :: parts.elements }
        else if !isStatic && isNamed member "constructor" then
          if parts.constructor.isSome then fault "property constructor appears more than once"
          else
            let kind := if hasParent then FunctionKind.derivedConstructor else .constructor
            let f ← functionRest g start kind .none name false
            pure { parts with constructor := some f }
        else
          let m ← methodRest g start marks member
          pure { parts with elements := .member isStatic m :: parts.elements }

/-- Reads the elements of a class up to the closing brace, which stays. -/
def classElements (g : Grammar) (hasParent : Bool) (name : Str) : Nat → ClassParts → Parse ClassParts
  | 0, _ => fault "too many elements"
  | fuel + 1, parts => do
    if ← atMark "\x7d" then pure parts
    else if ← takeMark ";" then classElements g hasParent name fuel parts
    else do classElements g hasParent name fuel (← classElement g hasParent name parts)

/-- Reads a class whose first token is the current one. -/
def classRest (g : Grammar) (needsName : Bool) (nameless : Option Str) : Parse (Option Str × Class) := do
  let start := (← current).start
  let wasStrict ← isStrict
  modifyFunction fun fn => { fn with strict := true }
  advance
  let name ← do
    match (← current).lexeme with
    | .word w _ =>
      if w == "extends" then pure none
      else
        match ← nameHere? with
        | some n =>
          advance
          pure (some n)
        | none => fault "class statement requires a name"
    | _ => pure none
  if needsName && name.isNone && nameless.isNone then fault "class statement requires a name"
  else
    let hasParent ← takeWord "extends"
    let parent ← if hasParent then g.leftHand else pure .missing
    let place ← here
    expect "\x7b"
    let label := (name <|> nameless).getD .empty
    let outer := (← get).privateUses
    modify fun s => { s with privateUses := [] }
    let parts ← classElements g hasParent label maxLength {}
    modify fun s =>
      let unknown := s.privateUses.filter fun n => !parts.hidden.any fun p => p.1 == n
      { s with privateUses := unknown ++ outer }
    let stop ← current
    modifyFunction fun fn => { fn with strict := wasStrict }
    advance
    let source ← sourceFrom start
    let file := (← get).file
    pure (name, .mk
      { name := label, hasName := name.isSome, hasParent, source, file, start := place
        stop := ⟨stop.start.line, stop.start.column + 1⟩ }
      parent parts.constructor parts.elements.reverse)

end Parse

end BrainHost.Script
