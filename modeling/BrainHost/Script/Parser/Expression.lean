import BrainHost.Script.Parser.Function
import BrainHost.Script.Pattern

/-! # Expressions

Reads expressions by precedence. An operation has the column of the last operand that was read
before it, a call that of its callee. -/

namespace BrainHost.Script

namespace Parse

def arguments (g : Grammar) : Nat → List Item → Parse (List Item)
  | 0, _ => fault "too many call arguments"
  | fuel + 1, acc => do
    if ← takeMark ")" then pure acc.reverse
    else
      let item ←
        if ← takeMark "..." then do
          let e ← g.assignment true
          pure (.spread e (← here))
        else do pure (.value (← g.assignment true))
      let acc := item :: acc
      if ← takeMark ")" then pure acc.reverse
      else
        expect ","
        arguments g fuel acc

/-- Reads the items of an array literal up to the closing bracket. -/
def arrayItems (g : Grammar) : Nat → List Item → Parse (List Item)
  | 0, _ => fault "too many elements"
  | fuel + 1, acc => do
    if ← takeMark "]" then pure acc.reverse
    else if ← takeMark "," then arrayItems g fuel (.hole :: acc)
    else
      let item ←
        if ← takeMark "..." then do
          let e ← g.assignment true
          pure (.spread e (← here))
        else do pure (.value (← g.assignment true))
      let acc := item :: acc
      if ← takeMark "," then arrayItems g fuel acc
      else
        expect "]"
        pure acc.reverse

/-- Reads a member of an object literal that may have its parent already. -/
def objectMember (g : Grammar) (hasParent : Bool) : Parse Member := do
  let start := (← current).start
  if ← takeMark "..." then
    let e ← g.assignment true
    pure (.spread e (← here))
  else
    let t ← current
    let shorthand ← nameHere?
    let (marks, name) ← markedName g false
    if ← atMark "(" then methodRest g start marks name
    else if ← takeMark ":" then
      let e ← g.assignment true
      if isNamed name "__proto__" then
        if hasParent then fault "duplicate __proto__ property name" else pure (.parent e)
      else
        let label := match name with
          | .fixed k => keyName k
          | _ => .empty
        pure (.value name (nameAnonymous label e))
    else
      match shorthand, t.lexeme with
      | some n, .word _ _ =>
        useName n
        pure (.value name (.name n (← here)))
      | _, _ => fault "expecting ':'"

/-- Reads the members of an object literal up to the closing brace. -/
def objectMembers (g : Grammar) : Nat → Bool → List Member → Parse (List Member)
  | 0, _, _ => fault "too many members"
  | fuel + 1, hasParent, acc => do
    if ← takeMark "\x7d" then pure acc.reverse
    else
      let m ← objectMember g hasParent
      let hasParent := match m with
        | .parent _ => true
        | _ => hasParent
      let acc := m :: acc
      if ← takeMark "," then objectMembers g fuel hasParent acc
      else
        expect "\x7d"
        pure acc.reverse

/-! ## Templates -/

def templateText (c : Cursor) : Parse TemplateText := do
  match readTemplate maxLength (some .empty) .empty c with
  | some part => pure part
  | none => fault "unexpected end of string"

/-- The texts and expressions of a template literal. -/
structure TemplateParts where
  cooked : List (Option Str) := []
  raw : List Str := []
  args : List Expr := []

/-- Reads a template literal after its first text. -/
def templateTail (g : Grammar) : Nat → TemplateText → TemplateParts → Parse TemplateParts
  | 0, _, _ => fault "too many expressions"
  | fuel + 1, part, acc => do
    let acc := { acc with cooked := part.cooked :: acc.cooked, raw := part.raw :: acc.raw }
    if part.isLast then
      modify fun s => { s with line := s.token.start.line, last := part.after }
      seek part.after
      pure { cooked := acc.cooked.reverse, raw := acc.raw.reverse, args := acc.args.reverse }
    else
      seek part.after
      let e ← expression g true
      if ← atMark "\x7d" then
        let next ← templateText (← current).after
        templateTail g fuel next { acc with args := e :: acc.args }
      else fault "expected '\x7d' after template expression"

def templateParts (g : Grammar) : Parse TemplateParts := do
  let t ← current
  templateTail g maxLength (← templateText t.after) {}

/-- Reads a template literal without a tag. -/
def templateLiteral (g : Grammar) : Parse Expr := do
  let t ← current
  let parts ← templateParts g
  match parts.cooked.mapM id with
  | none =>
    throw
      { message := "malformed escape sequence in string literal", line := t.start.line, column := t.start.column }
  | some [] => pure (.string .empty)
  | some (first :: rest) =>
    if parts.args.isEmpty then pure (.string first)
    else pure (.template first ((parts.args.zip rest).map fun (e, s) => .mk e s) (← here))

/-! ## Primary expressions -/

def arrowFunction (g : Grammar) : Parse Expr := do
  let start := (← current).start
  let isAsync ←
    if ← atWord "async" then
      match ← peek with
      | some next =>
        if isMarkToken next "=>" then pure false
        else
          advance
          pure true
      | none => pure false
    else pure false
  let f ← functionRest g start .arrow (coroutineOf isAsync false) .empty false
  pure (.function f)

/-- The fault of a token that starts no expression. -/
def unexpectedToken {α : Type} : Parse α := do
  let t ← current
  fault s!"unexpected token in expression: '{tokenText t}'"

def regularExpression : Parse Expr := do
  let t ← current
  match readRegExp maxLength false .empty (t.start.forward 1) with
  | .error e => fault e
  | .ok (body, after) =>
    let letters := after.text.takeWhile fun c => Text.isIdContinue c || c = '$'
    let flags := Str.ofList letters
    if !validFlags flags then fault "invalid regular expression flags"
    else
      match Expression.read? body (hasFlag flags 'u') with
      | .error e => fault e
      | .ok _ =>
        let stop := after.forward letters.length
        modify fun s => { s with line := t.start.line, last := stop }
        seek stop
        pure (.regexp body flags)

def wordExpression (g : Grammar) (w : String) (escaped : Bool) : Parse Expr := do
  let t ← current
  let place : Place := ⟨t.start.line, t.start.column + 1⟩
  if escaped && (← isReserved w) then fault s!"'{w}' is a reserved identifier"
  else if w == "null" then do advance; pure .null
  else if w == "true" then do advance; pure (.bool true)
  else if w == "false" then do advance; pure (.bool false)
  else if w == "this" then do advance; pure (.this place)
  else if w == "function" then functionExpression g
  else if ← atAsyncFunction then functionExpression g
  else if w == "class" then
    let (_, c) ← classRest g false none
    pure (.classOf c)
  else if w == "super" then
    advance
    let allowed := (← function).allowed
    if ← atMark "(" then
      if !allowed.superCall then fault "super() is only valid in a derived class constructor"
      else
        advance
        let args ← arguments g maxLength []
        setColumn place.column
        pure (.superCall args (← here))
    else if ((← atMark ".") || (← atMark "[")) && !allowed.superMember then
      fault "'super' is only valid in a method"
    else if ← takeMark "." then
      mark
      match (← current).lexeme with
      | .word n _ =>
        advance
        pure (.superMember (.string (Str.ofString n)) (← here))
      | _ => fault "expecting field name"
    else if ← takeMark "[" then
      let e ← expression g true
      expect "]"
      pure (.superMember e (← here))
    else fault "invalid use of 'super'"
  else if w == "import" then
    advance
    if ← takeMark "." then
      if !(← atWord "meta") then fault "meta expected"
      else if !(← get).isModule then fault "import.meta only valid in module code"
      else
        advance
        pure .importMeta
    else
      expect "("
      let e ← g.assignment true
      expect ")"
      pure (.importCall e (← here))
  else
    match ← nameHere? with
    | some name =>
      useName name
      advance
      pure (.name name place)
    | none => unexpectedToken

/-- Reads an expression that is not made of others by operators. -/
def primary (g : Grammar) : Parse Expr := do
  let t ← current
  mark
  match t.lexeme with
  | .number x => do advance; pure (.number x)
  | .bigint n => do advance; pure (.bigint n)
  | .string s => do advance; pure (.string s)
  | .backtick => templateLiteral g
  | .word w escaped => wordExpression g w escaped
  | .mark m =>
    if m == "(" then
      advance
      let e ← expression g true
      expect ")"
      -- In parentheses an anonymous function stays anonymous, and a chain ends.
      pure e
    else if m == "[" then
      advance
      pure (.array (← arrayItems g maxLength []))
    else if m == "\x7b" then
      advance
      pure (.object (← objectMembers g maxLength false []))
    else if m == "/" || m == "/=" then regularExpression
    else unexpectedToken
  | .hidden name =>
    let place : Place := ⟨t.start.line, t.start.column + 1⟩
    match ← peek with
    | some next =>
      if isWordToken next "in" then
        advance
        advance
        usePrivate (Str.ofString name)
        let e ← g.unary .allowed
        pure (.privateIn (Str.ofString name) e place)
      else unexpectedToken
    | none => unexpectedToken
  | .stop => unexpectedToken

/-! ## Calls and members -/

def endChain (optional : Bool) (e : Expr) : Expr := if optional then .chain e else e

/-- Reads the name after a point. -/
def dotMember (object : Expr) (optional : Bool) : Parse Expr := do
  mark
  match (← current).lexeme with
  | .word n _ =>
    advance
    pure (.member object (.name (Str.ofString n)) optional (← here))
  | .hidden n =>
    advance
    usePrivate (Str.ofString n)
    pure (.privateMember object (Str.ofString n) optional (← here))
  | _ => fault "expecting field name"

def elementOf (object key : Expr) (optional : Bool) (place : Place) : Expr :=
  match key with
  | .string s => .member object (keyOf s) optional place
  | key => .element object key optional place

/-- Reads calls and members after an expression; `column` is that of the callee. -/
def postfixTail (g : Grammar) (calls : Bool) (optional : Bool) (column : Nat) : Nat → Expr → Parse (Expr × Bool)
  | 0, _ => fault "too many calls"
  | fuel + 1, e => do
    let t ← current
    if isMarkToken t "." then
      advance
      let nameColumn := (← current).start.column + 1
      let e ← dotMember e false
      postfixTail g calls optional nameColumn fuel e
    else if isMarkToken t "?." && calls then
      advance
      if ← takeMark "(" then
        let args ← arguments g maxLength []
        setColumn column
        postfixTail g calls true column fuel (.call e args true (← here))
      else if ← takeMark "[" then
        let key ← expression g true
        expect "]"
        postfixTail g calls true column fuel (elementOf e key true (← here))
      else
        let nameColumn := (← current).start.column + 1
        let e ← dotMember e true
        postfixTail g calls true nameColumn fuel e
    else if isMarkToken t "[" then
      advance
      let key ← expression g true
      expect "]"
      postfixTail g calls optional column fuel (elementOf e key false (← here))
    else if isMarkToken t "(" && calls then
      advance
      match e with
      | .name n _ =>
        if n == Str.ofString "eval" then
          modifyFunction fun fn => { fn with usesEval := true, usesArguments := true }
      | _ => pure ()
      let args ← arguments g maxLength []
      setColumn column
      postfixTail g calls optional column fuel (.call e args false (← here))
    else
      match t.lexeme with
      | .backtick =>
        if optional then fault "template literal cannot appear in an optional chain"
        else
          let parts ← templateParts g
          let site := (← get).sites
          modify fun s => { s with sites := site + 1 }
          setColumn column
          postfixTail g calls optional column fuel
            (.tagged e site parts.cooked parts.raw parts.args (← here))
      | _ => pure (e, optional)

/-- Reads `new` and what it makes. -/
def newExpression (g : Grammar) : Nat → Parse Expr
  | 0 => fault "too many constructors"
  | fuel + 1 => do
    let t ← current
    let column := t.start.column + 1
    mark
    advance
    if ← takeMark "." then
      if !(← atWord "target") then fault "expecting target"
      else if !(← function).allowed.newTarget then fault "new.target only allowed within functions"
      else
        advance
        pure .newTarget
    else
      let start ← current
      let callee ←
        if isWordToken start "new" then newExpression g fuel
        else primary g
      let (callee, _) ← postfixTail g false false (start.start.column + 1) maxLength callee
      if ← takeMark "(" then
        let args ← arguments g maxLength []
        setColumn column
        pure (.construct callee args (← here))
      else pure (.construct callee [] (← here))

def leftHandSide (g : Grammar) : Parse Expr := do
  let t ← current
  let e ← if isWordToken t "new" then newExpression g 1000 else primary g
  let (e, optional) ← postfixTail g true false (t.start.column + 1) maxLength e
  pure (endChain optional e)

def targetOf (message : String) (e : Expr) : Parse Target := do
  match e with
  | .name n place =>
    if (← isStrict) && (n == Str.ofString "eval" || n == Str.ofString "arguments") then
      fault "invalid lvalue in strict mode"
    else pure (.name n place)
  | .member object key false place => pure (.member object key place)
  | .element object key false place => pure (.element object key place)
  | .superMember key place => pure (.superMember key place)
  | .privateMember object name false place => pure (.privateMember object name place)
  | _ => fault message

/-- Reads an expression with `++` or `--` after it. -/
def postfixExpression (g : Grammar) : Parse Expr := do
  let e ← leftHandSide g
  let t ← current
  if (isMarkToken t "++" || isMarkToken t "--") && !t.newline then
    let target ← targetOf "invalid increment/decrement operand" e
    advance
    pure (.update (isMarkToken t "++") false target (← here))
  else pure e

/-! ## Operators -/

/-- The operator of a word or mark before an operand. -/
def unaryOp? (t : Token) : Option UnaryOp :=
  match t.lexeme with
  | .mark m =>
    if m == "-" then some .minus
    else if m == "+" then some .plus
    else if m == "!" then some .not
    else if m == "~" then some .complement
    else none
  | .word w false => if w == "typeof" then some .typeof else if w == "void" then some .void else none
  | _ => none

/-- Whether `await` is an operator here. -/
def awaits : Parse Bool := do
  let fn ← function
  let s ← get
  pure (fn.coroutine = .async || fn.coroutine = .asyncGenerator || (s.isModule && fn.isTop))

/-- Reads `**` and its right operand after its base, where that is allowed. -/
def powerTail (g : Grammar) (power : PowerMode) (base : Expr) : Parse Expr := do
  if power ≠ .left && (← atMark "**") then
    if power = .forbidden then
      faultNowhere "unparenthesized unary expression can't appear on the left-hand side of '**'"
    else
      advance
      let e ← g.unary .allowed
      pure (.binary .exp base e (← here))
  else pure base

/-- Whether `await` is a word of the syntax here, even where it must not stand. -/
def knowsAwait : Parse Bool := do pure ((← awaits) || (← get).isModule)

def unaryExpression (g : Grammar) (power : PowerMode) : Parse Expr := do
  let t ← current
  match unaryOp? t with
  | some op =>
    mark
    advance
    let e ← g.unary .forbidden
    let place ← here
    match op, e with
    | .typeof, .name n p => pure (.typeofName n p)
    | .minus, .number x => pure (.number (-x))
    | op, e => pure (.unary op e place)
  | none =>
    if isMarkToken t "++" || isMarkToken t "--" then
      mark
      advance
      let e ← g.unary .left
      let target ← targetOf "invalid increment/decrement operand" e
      powerTail g power (.update (isMarkToken t "++") true target (← here))
    else if isWordToken t "delete" then
      mark
      advance
      let e ← g.unary .forbidden
      match e with
      | .name _ _ =>
        if ← isStrict then fault "cannot delete a direct reference in strict mode"
        else pure (.delete e (← here))
      | e => do pure (.delete e (← here))
    else if isWordToken t "await" && (← knowsAwait) then
      if !(← awaits) then fault "unexpected 'await' keyword"
      else if !(← function).inBody then fault "await in default expression"
      else
        advance
        let e ← g.unary .forbidden
        pure (.await e (← here))
    else do powerTail g power (← postfixExpression g)

/-- The operators of each precedence, from the tightest. -/
def binaryOps : Nat → List (String × BinaryOp)
  | 0 => [("*", .mul), ("/", .div), ("%", .mod)]
  | 1 => [("+", .add), ("-", .sub)]
  | 2 => [("<<", .shiftLeft), (">>", .shiftRight), (">>>", .shiftRightUnsigned)]
  | 3 => [("<", .less), (">", .greater), ("<=", .lessEqual), (">=", .greaterEqual)]
  | 4 => [("==", .equal), ("!=", .notEqual), ("===", .strictEqual), ("!==", .strictNotEqual)]
  | 5 => [("&", .and)]
  | 6 => [("^", .xor)]
  | _ => [("|", .or)]

def binaryOp? (level : Nat) (allowIn : Bool) (t : Token) : Option BinaryOp :=
  match t.lexeme with
  | .mark m => ((binaryOps level).find? fun p => p.1 == m).map (·.2)
  | .word w false =>
    if level = 3 && w == "instanceof" then some .instanceof
    else if level = 3 && allowIn && w == "in" then some .isIn
    else none
  | _ => none

/-- Reads operators of one precedence after their first operand. -/
def binaryTail (operand : Parse Expr) (level : Nat) (allowIn : Bool) : Nat → Expr → Parse Expr
  | 0, _ => fault "too many operators"
  | fuel + 1, left => do
    match binaryOp? level allowIn (← current) with
    | none => pure left
    | some op =>
      advance
      let right ← operand
      binaryTail operand level allowIn fuel (.binary op left right (← here))

def binaryExpression (g : Grammar) (allowIn : Bool) : Nat → Parse Expr
  | 0 => do
    let operand := g.unary .allowed
    let e ← operand
    binaryTail operand 0 allowIn maxLength e
  | level + 1 => do
    let operand := binaryExpression g allowIn level
    let e ← operand
    binaryTail operand (level + 1) allowIn maxLength e

/-- Reads the operator `&&` or `||` after its first operand. -/
def logicalTail (op : LogicalOp) (m : String) (operand : Parse Expr) : Nat → Expr → Parse Expr
  | 0, _ => fault "too many operators"
  | fuel + 1, left => do
    if ← takeMark m then
      let right ← operand
      if ← atMark "??" then fault "cannot mix ?? with && or ||"
      else logicalTail op m operand fuel (.logical op left right)
    else pure left

/-- Reads `??` after its first operand. -/
def coalesceTail (operand : Parse Expr) : Nat → Expr → Parse Expr
  | 0, _ => fault "too many operators"
  | fuel + 1, left => do
    if ← takeMark "??" then
      let right ← operand
      coalesceTail operand fuel (.logical .coalesce left right)
    else pure left

def operatorExpression (g : Grammar) (allowIn : Bool) : Parse Expr := do
  let bits := binaryExpression g allowIn 7
  let conjunction : Parse Expr := do logicalTail .and "&&" bits maxLength (← bits)
  let left ← logicalTail .or "||" conjunction maxLength (← conjunction)
  coalesceTail bits maxLength left

def conditionalExpression (g : Grammar) (allowIn : Bool) : Parse Expr := do
  let test ← operatorExpression g allowIn
  if ← takeMark "?" then
    let whenTrue ← g.assignment true
    expect ":"
    let whenFalse ← g.assignment allowIn
    pure (.conditional test whenTrue whenFalse)
  else pure test

/-! ## Patterns -/

/-- Reads a name that a pattern declares, or a target that it assigns to. -/
def patternTarget (g : Grammar) (mode : PatternMode) : Parse (Target × Option Str) := do
  if (← atMark "[") || (← atMark "\x7b") then
    match mode with
    | .assign =>
      -- An array or object literal may also start a member that is assigned to.
      match ← pastHere with
      | some next =>
        if isMarkToken next "." || isMarkToken next "[" || isMarkToken next "(" then
          let e ← leftHandSide g
          pure (← targetOf "invalid destructuring target" e, none)
        else pure (← g.pattern mode, none)
      | none => pure (← g.pattern mode, none)
    | mode => pure (← g.pattern mode, none)
  else
    match mode with
    | .assign =>
      let e ← leftHandSide g
      let name := match e with
        | .name n _ => some n
        | _ => none
      pure (← targetOf "invalid destructuring target" e, name)
    | mode =>
      match ← nameHere? with
      | some name =>
        let t ← current
        if (← isStrict) && isRestricted name then fault "invalid destructuring target"
        else
          checkParameter mode name
          advance
          declareIn mode name
          pure (.name name ⟨t.start.line, t.start.column + 1⟩, some name)
      | none => fault "invalid destructuring target"

/-- Reads the items of an array pattern up to the closing bracket. -/
def arrayPattern (g : Grammar) (mode : PatternMode) : Nat → List TargetItem → Parse (List TargetItem)
  | 0, _ => fault "too many elements"
  | fuel + 1, acc => do
    if ← takeMark "]" then pure acc.reverse
    else if ← takeMark "," then arrayPattern g mode fuel (.hole :: acc)
    else if ← takeMark "..." then
      if (← atMark ",") || (← atMark "]") then fault "missing binding pattern..."
      else
        let (target, _) ← patternTarget g mode
        if ← takeMark "]" then pure (TargetItem.rest target :: acc).reverse
        else fault "rest element must be the last one"
    else
      let (target, name) ← patternTarget g mode
      let e ← fallback g name
      let acc := TargetItem.item target e :: acc
      if ← takeMark "]" then pure acc.reverse
      else
        expect ","
        arrayPattern g mode fuel acc

/-- Reads the members of an object pattern up to the closing brace. -/
def objectPattern (g : Grammar) (mode : PatternMode) : Nat → List TargetMember → Parse (List TargetMember)
  | 0, _ => fault "too many members"
  | fuel + 1, acc => do
    if ← takeMark "\x7d" then pure acc.reverse
    else if ← takeMark "..." then
      let (target, _) ← patternTarget g mode
      if ← takeMark "\x7d" then pure (TargetMember.rest target :: acc).reverse
      else fault "assignment rest property must be last"
    else
      let t ← current
      let shorthand ← nameHere?
      let name ← memberName g false
      let m ←
        if ← takeMark ":" then do
          let (target, label) ← patternTarget g mode
          pure (TargetMember.member name target (← fallback g label))
        else
          match shorthand, t.lexeme with
          | some n, .word _ _ => do
            checkParameter mode n
            if (← isStrict) && isRestricted n then fault "invalid destructuring target"
            match mode with
            | .assign => useName n
            | mode => declareIn mode n
            let target := Target.name n ⟨t.start.line, t.start.column + 1⟩
            pure (TargetMember.member name target (← fallback g (some n)))
          | _, _ => fault "expecting ':'"
      let acc := m :: acc
      if ← takeMark "\x7d" then pure acc.reverse
      else
        expect ","
        objectPattern g mode fuel acc

def patternRest (g : Grammar) (mode : PatternMode) : Parse Target := do
  mark
  let t ← current
  let place : Place := ⟨t.start.line, t.start.column + 1⟩
  if ← takeMark "[" then pure (.array (← arrayPattern g mode maxLength []) place)
  else
    expect "\x7b"
    pure (.object (← objectPattern g mode maxLength []) place)

/-! ## Assignments -/

def assignOp? (t : Token) : Option AssignOp :=
  match t.lexeme with
  | .mark m =>
    ([("=", .plain), ("+=", .combine .add), ("-=", .combine .sub), ("*=", .combine .mul), ("/=", .combine .div),
      ("%=", .combine .mod), ("**=", .combine .exp), ("<<=", .combine .shiftLeft), (">>=", .combine .shiftRight),
      (">>>=", .combine .shiftRightUnsigned), ("&=", .combine .and), ("|=", .combine .or), ("^=", .combine .xor),
      ("&&=", .logical .and), ("||=", .logical .or), ("??=", .logical .coalesce)].find? fun p => p.1 == m).map (·.2)
  | _ => none

def atArrow : Parse Bool := do
  let t ← current
  if isMarkToken t "(" then
    match ← pastHere with
    | some next => pure (isMarkToken next "=>" && !next.newline)
    | none => pure false
  else
    match t.lexeme with
    | .word w escaped =>
      match ← peek with
      | none => pure false
      | some next =>
        if isMarkToken next "=>" && !next.newline then do
          pure (!(← isReserved w))
        else if w == "async" && !escaped && !next.newline then
          let s ← get
          let strict ← isStrict
          match next.lexeme with
          | .word v _ =>
            if keywords.contains v then pure false
            else
              match scan strict s.isModule next.after with
              | .ok third => pure (isMarkToken third "=>" && !third.newline)
              | .error _ => pure false
          | .mark m =>
            if m == "(" then
              match (pastBrackets strict s.isModule maxLength [] (.mark "(") {} next).next with
              | some third => pure (isMarkToken third "=>" && !third.newline)
              | none => pure false
            else pure false
          | _ => pure false
        else pure false
    | _ => pure false

/-- Whether `yield` is an operator here. -/
def yields : Parse Bool := do
  let fn ← function
  pure (fn.coroutine = .generator || fn.coroutine = .asyncGenerator)

/-- Whether `yield` is a word of the syntax here, even where it must not stand. -/
def knowsYield : Parse Bool := do pure ((← yields) || (← isStrict))

/-- Reads `yield` and what it hands over. -/
def yieldExpression (g : Grammar) (allowIn : Bool) : Parse Expr := do
  mark
  advance
  let t ← current
  let ends := t.newline || (match t.lexeme with
    | .mark m => [")", "]", "\x7d", ",", ";", ":"].contains m
    | .word w _ => w == "in" || w == "of"
    | .stop => true
    | _ => false)
  if ends then pure (.yield .missing false (← here))
  else
    let delegate ← takeMark "*"
    let e ← g.assignment allowIn
    pure (.yield e delegate (← here))

def assignmentExpression (g : Grammar) (allowIn : Bool) : Parse Expr := do
  let t ← current
  if isWordToken t "yield" && (← knowsYield) then
    if !(← yields) then fault "unexpected 'yield' keyword"
    else if !(← function).inBody then fault "yield in default expression"
    else yieldExpression g allowIn
  else if ← atArrow then
    mark
    arrowFunction g
  else
    let isPattern ←
      if isMarkToken t "[" || isMarkToken t "\x7b" then
        match ← pastHere with
        | some next => pure (isMarkToken next "=")
        | none => pure false
      else pure false
    if isPattern then
      let target ← g.pattern .assign
      expect "="
      let value ← g.assignment allowIn
      pure (.assign .plain target value (← here))
    else
      let e ← conditionalExpression g allowIn
      match assignOp? (← current) with
      | none => pure e
      | some op =>
        advance
        let target ← targetOf "invalid assignment left-hand side" e
        let value ← g.assignment allowIn
        let value := match e with
          | .name n _ => nameAnonymous n value
          | _ => value
        pure (.assign op target value (← here))

end Parse

end BrainHost.Script
