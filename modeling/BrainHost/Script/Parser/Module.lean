import BrainHost.Script.Parser.Statement

/-! # Module items

Reads what only a module may hold: exports and imports. -/

namespace BrainHost.Script

namespace Parse

def defaultVariable : Str := Str.ofString "*default*"

def addExport (exported binding : Str) : Parse Unit := do
  if (← get).exports.any fun e => e.exported == exported then
    fault s!"duplicate exported name '{exported.toText}'"
  else
    modify fun s => { s with exports := ⟨exported, binding⟩ :: s.exports }

def addRequest (name : Str) : Parse Unit := modify fun s => { s with requests := name :: s.requests }

def anyWord : Parse Str := do
  match (← current).lexeme with
  | .word w _ =>
    advance
    pure (Str.ofString w)
  | _ => fault "identifier expected"

def fromClause : Parse Unit := do
  if ← takeWord "from" then
    match (← current).lexeme with
    | .string s =>
      advance
      addRequest s
    | _ => fault "string expected"
  else fault "from clause expected"

def namePairs : Nat → List (Str × Str) → Parse (List (Str × Str))
  | 0, _ => fault "too many names"
  | fuel + 1, acc => do
    if ← takeMark "\x7d" then pure acc.reverse
    else
      let first ← anyWord
      let second ← if ← takeWord "as" then anyWord else pure first
      let acc := (first, second) :: acc
      if ← takeMark "," then namePairs fuel acc
      else
        expect "\x7d"
        pure acc.reverse

/-- The names that are declared at the top of the module so far, the latest first. -/
def topNames : Parse (List Str × List Str) := do
  let block := (← function).blocks.headD {}
  pure (block.lexicals.map declaredName, block.vars)

/-- Exports every name that is declared while something is read. -/
def exporting {α : Type} (p : Parse α) : Parse α := do
  let (lexicals, vars) ← topNames
  let a ← p
  let (lexicals', vars') ← topNames
  let names := (lexicals'.take (lexicals'.length - lexicals.length)).reverse
    ++ (vars'.take (vars'.length - vars.length)).reverse
  names.forM fun name => addExport name name
  pure a

def defaultExport (value : Expr) : Parse Stmt := do
  declareLexical (.let defaultVariable) false
  addExport (Str.ofString "default") defaultVariable
  pure (.declare .let (.name defaultVariable (← here)) value (← here))

def defaultRest (g : Grammar) : Parse Stmt := do
  let label := Str.ofString "default"
  if (← atWord "function") || (← atAsyncFunction) then
    let (name, f) ← functionDeclaration g (fun name _ => declareFunction name) (some label)
    match f with
    | .mk info _ _ =>
      if name == label && info.name == label then defaultExport (.function f)
      else
        addExport label name
        pure (.function f false)
  else if ← atWord "class" then
    let (name, c) ← classRest g true (some label)
    match name with
    | some name =>
      declareLexical (.let name) false
      addExport label name
      pure (.classOf name c)
    | none => defaultExport (.classOf c)
  else
    let e ← g.assignment true
    let s ← defaultExport (nameAnonymous label e)
    expectEnd
    pure s

/-- Reads an export after its word. -/
def exportRest (g : Grammar) : Parse Stmt := do
  let t ← current
  if isWordToken t "class" then exporting (classStatement g)
  else if isWordToken t "function" || (← atAsyncFunction) then exporting (functionStatement g)
  else if ← takeMark "\x7b" then
    let pairs ← namePairs maxLength []
    if ← atWord "from" then
      pairs.forM fun (_, exported) => addExport exported .empty
      fromClause
    else pairs.forM fun (binding, exported) => addExport exported binding
    expectEnd
    pure .empty
  else if ← takeMark "*" then
    if ← takeWord "as" then
      let name ← anyWord
      addExport name .empty
    fromClause
    expectEnd
    pure .empty
  else if ← takeWord "default" then defaultRest g
  else
    match t.lexeme with
    | .word w false =>
      if w == "var" || w == "let" || w == "const" then
        advance
        let ds ← exporting (declarations g (declarationKind w) true maxLength [])
        pure (together ds)
      else
        advance
        fault "invalid export syntax"
    | _ =>
      advance
      fault "invalid export syntax"

def importName (name : Str) : Parse Unit := do
  if name == Str.ofString "eval" || name == Str.ofString "arguments" then fault "invalid import binding"
  else declareLexical (.const name) false

/-- Reads the names that an import binds after a default name. -/
def importNames : Parse Unit := do
  if ← takeMark "*" then
    if ← takeWord "as" then
      let name ← anyWord
      importName name
    else fault "expecting 'as'"
  else if ← takeMark "\x7b" then
    let pairs ← namePairs maxLength []
    pairs.forM fun (_, binding) => importName binding
  else pure ()

/-- Reads an import after its word. -/
def importRest : Parse Stmt := do
  match (← current).lexeme with
  | .string s =>
    advance
    addRequest s
  | .word _ _ =>
    match ← nameHere? with
    | some name =>
      advance
      importName name
      if ← takeMark "," then importNames
      fromClause
    | none => unexpectedToken
  | _ =>
    importNames
    fromClause
  expectEnd
  pure .empty

def moduleItem (g : Grammar) : Parse Stmt := do
  if ← takeWord "export" then exportRest g
  else if ← atWord "import" then
    let next ← peek
    if (next.map fun t => isMarkToken t "(" || isMarkToken t ".").getD false then g.statement .any
    else
      advance
      importRest
  else g.statement .any

end Parse

end BrainHost.Script
