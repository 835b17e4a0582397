import BrainHost.Script.Json
import BrainHost.Script.Native
import BrainHost.Script.Syntax

/-! # Values and objects

Values, the objects they refer to and the scopes of variables, all of them by number. -/

namespace BrainHost.Script

inductive Value
  | undefined
  | null
  | bool (b : Bool)
  | number (x : Float)
  | string (s : Str)
  | symbol (id : Nat)
  | bigint (n : Int)
  | object (ref : Nat)
  deriving Inhabited

namespace Value

def text (s : String) : Value := string (Str.ofString s)

def nat (n : Nat) : Value := number (natFloat n)

/-- Whether a value is undefined or null. -/
def isNullish : Value → Bool
  | undefined => true
  | null => true
  | _ => false

def isUndefined : Value → Bool
  | undefined => true
  | _ => false

def ref? : Value → Option Nat
  | object ref => some ref
  | _ => none

def isObject (v : Value) : Bool := v.ref?.isSome

/-- An object's reference, or undefined. -/
def ofRef? : Option Nat → Value
  | some ref => object ref
  | none => undefined

def truthy : Value → Bool
  | undefined => false
  | null => false
  | bool b => b
  | number x => !(x == 0 || x.isNaN)
  | string s => !s.isEmpty
  | symbol _ => true
  | bigint n => n != 0
  | object _ => true

/-- Equality of `===`. -/
def strictEq : Value → Value → Bool
  | undefined, undefined => true
  | null, null => true
  | bool a, bool b => a == b
  | number x, number y => x == y
  | string s, string t => s == t
  | symbol a, symbol b => a == b
  | bigint m, bigint n => m == n
  | object a, object b => a == b
  | _, _ => false

/-- Equality that tells zeros apart and holds of a value that is no number and itself. -/
def same : Value → Value → Bool
  | number x, number y => x.toBits == y.toBits || (x.isNaN && y.isNaN)
  | v, w => strictEq v w

/-- Equality that holds of a value that is no number and itself. -/
def sameOrZero : Value → Value → Bool
  | number x, number y => x == y || (x.isNaN && y.isNaN)
  | v, w => strictEq v w

end Value

namespace Key

def indexOf? (s : Str) : Option Nat :=
  if s.size = 0 || 10 < s.size || !s.units.all (isDigitOf 10) then none
  else
    let n := numberOf 10 s.units.toList
    if s.units[0]? == some (unitOf '0') && 1 < s.size then none
    else if n < Nat.pow 2 32 - 1 then some n else none

def ofStr (s : Str) : Key :=
  match indexOf? s with
  | some n => index n
  | none => name s

def ofNat (n : Nat) : Key := if n < Nat.pow 2 32 - 1 then index n else name (Str.ofString (toString n))

def text (s : String) : Key := name (Str.ofString s)

/-- The string of a key that is no symbol. -/
def toStr? : Key → Option Str
  | index n => some (Str.ofString (toString n))
  | name s => some s
  | symbol _ => none

def toValue : Key → Value
  | index n => .string (Str.ofString (toString n))
  | name s => .string s
  | symbol id => .symbol id

def isSymbol : Key → Bool
  | symbol _ => true
  | _ => false

end Key

/-- What a property holds. -/
inductive Slot
  | data (value : Value) (writable : Bool)
  | accessor (get set : Value)
  deriving Inhabited

structure Property where
  slot : Slot
  enumerable : Bool
  configurable : Bool
  deriving Inhabited

namespace Property

def plain (v : Value) : Property := ⟨.data v true, true, true⟩

/-- A property that does not show in loops. -/
def hidden (v : Value) : Property := ⟨.data v true, false, true⟩

def constant (v : Value) : Property := ⟨.data v false, false, false⟩

/-- A property that can only be redefined. -/
def readOnly (v : Value) : Property := ⟨.data v false, false, true⟩

end Property

/-- The own properties of an object, in the order of their definition. -/
abbrev Properties := Array (Key × Property)

namespace Properties

def position? (ps : Properties) (k : Key) : Option Nat := Array.findIdx? (fun p => p.1 == k) ps

def get? (ps : Properties) (k : Key) : Option Property := (Array.find? (fun p => p.1 == k) ps).map (·.2)

def insert (ps : Properties) (k : Key) (p : Property) : Properties :=
  match ps.position? k with
  | some i => ps.set! i (k, p)
  | none => ps.push (k, p)

def erase (ps : Properties) (k : Key) : Properties :=
  match ps.position? k with
  | some i => ps.eraseIdxIfInBounds i
  | none => ps

end Properties

/-- What a class gives to every object that it makes. A hidden member belongs to the class of a
number. -/
inductive Field
  | plain (key : Key) (initializer : Value)
  | hidden (owner : Nat) (name : Str) (initializer : Value)
  | method (owner : Nat) (name : Str) (slot : Slot)

/-- A function with its scope. -/
structure Closure where
  code : Function
  scope : Nat
  /-- The object whose parent `super` means. -/
  home : Option Nat := none
  fields : Array Field := #[]

/-- The functions that settle a promise. -/
structure PromiseCapability where
  promise : Value
  resolve : Value
  reject : Value
  deriving Inhabited

/-- What follows when a promise is settled. -/
structure Reaction where
  handler : Value
  capability : Option PromiseCapability

inductive PromiseState
  | pending (onFulfilled onRejected : Array Reaction)
  | fulfilled (v : Value)
  | rejected (v : Value)

/-- What an iterator walks over. -/
inductive Walk
  | array (source : Value) (next : Nat) (kind : Nat)
  | string (s : Str) (next : Nat)
  | collection (ref : Nat) (next : Nat) (kind : Nat)
  | matches (regexp : Value) (s : Str) (isGlobal unicode : Bool)
  | done

/-- How a suspended function goes on. -/
inductive Resumption
  | next | throws | returns
  deriving DecidableEq

/-- How far a suspended function is. -/
inductive Suspension
  | suspended (thread : Nat) (started : Bool)
  | running
  | finished

/-- A view of a buffer. The length is absent if the view spans the rest of the buffer. -/
structure View where
  buffer : Nat
  offset : Nat
  length : Nat
  deriving Inhabited

/-- What sets an object apart from others. -/
inductive Kind
  | ordinary
  /-- An array: its first elements, its length and whether that can change. -/
  | array (dense : Array Value) (length : Nat) (writable : Bool)
  | closure (c : Closure)
  | native (f : Native)
  | bound (target : Nat) (this : Value) (args : Array Value)
  | error
  | primitive (v : Value)
  | date (time : Float)
  | regexp (source flags : Str)
  /-- A map: its entries in order, with gaps where one was removed. -/
  | map (entries : Array (Option (Value × Value))) (weak : Bool)
  | set (entries : Array (Option (Value × Value))) (weak : Bool)
  | promise (state : PromiseState)
  | proxy (target handler : Option Nat) (callable constructs : Bool)
  /-- A buffer and its bytes, unless it shows those of the host. -/
  | buffer (bytes : ByteArray)
  | typed (type : ElementType) (view : View)
  | dataView (view : View)
  | arguments
  | generator (state : Suspension)
  /-- A generator whose items come later: how it is asked to go on, each with a promise. -/
  | asyncGenerator (state : Suspension) (requests : List (Resumption × Value × Nat))
  | iterator (walk : Walk)
  /-- The namespace of a module: each exported name with its scope and variable. -/
  | namespace (exports : Array (Str × Nat × Str))
  | list (items : Array Value)

/-- Host memory that a buffer shows; its bytes are absent once the buffer is cut off. -/
structure Loan where
  bytes : Option ByteArray
  /-- What scripts wrote there: the places and their bytes, the earliest first. -/
  writes : Array (Nat × UInt8) := #[]

/-- An object. -/
structure Obj where
  kind : Kind := .ordinary
  proto : Option Nat := none
  extensible : Bool := true
  properties : Properties := #[]
  /-- Members that only the class's own code can name: the class's number, the name and the member. -/
  secrets : Array (Nat × Str × Property) := #[]
  lent : Option Loan := none

instance : Inhabited Obj := ⟨{}⟩

/-- How a variable may be written. -/
inductive Writing
  | free
  | never
  /-- Never, but only strict code hears of it. -/
  | ignored
  deriving DecidableEq, Inhabited

/-- A variable; it has no value before its declaration. -/
structure Binding where
  name : Str
  value : Option Value
  writing : Writing := .free
  deriving Inhabited

structure Scope where
  parent : Option Nat
  bindings : Array Binding := #[]
  /-- The object whose properties are the variables. -/
  object : Option Nat := none
  /-- Whether `var` declares here. -/
  isVariableScope : Bool := false
  deriving Inhabited

/-- A running function. -/
structure Call where
  /-- The function whose name the stack shows. -/
  function : Option Nat
  /-- The file of its source; a built-in function has none. -/
  file : Option String
  place : Place
  /-- The promise or generator of a function that can be suspended. -/
  coroutine : Option Nat := none
  deriving Inhabited

/-- What waits to be done after the running script. -/
inductive Job
  | react (reaction : Reaction) (rejects : Bool) (argument : Value)
  | adopt (promise : Nat) (thenable : Value) (action : Value)
  /-- Loads a module for the code of a file. -/
  | load (promise : Nat) (name : Value) (file : String)

/-- Everything that scripts made and share. -/
structure Realm where
  objects : Array Obj := #[]
  scopes : Array Scope := #[]
  symbols : Array (Option Str) := #[]
  /-- The symbols that are known by a key. -/
  symbolKeys : Array (Str × Nat) := #[]
  calls : List Call := []
  jobs : List Job := []
  /-- The value of the last expression statement of the script. -/
  result : Value := .undefined
  /-- The arrays that stand for the texts of template literals. -/
  templates : Array (Nat × Nat) := #[]
  /-- The number of the next template literal with a tag. -/
  sites : Nat := 0
  /-- The deepest nesting of calls. -/
  maxDepth : Nat := 1000
  deriving Inhabited

/-- Objects that every realm has, by number. -/
inductive Intrinsic
  | objectPrototype | functionPrototype | globalObject
  | arrayPrototype | stringPrototype | numberPrototype | booleanPrototype | symbolPrototype | bigintPrototype
  | errorPrototype (kind : ErrorClass)
  | iteratorPrototype | arrayIteratorPrototype | stringIteratorPrototype | collectionIteratorPrototype (isSet : Bool)
  | matchIteratorPrototype
  | generatorPrototype | asyncGeneratorPrototype
  | generatorFunctionPrototype | asyncFunctionPrototype | asyncGeneratorFunctionPrototype
  | mapPrototype | setPrototype | weakMapPrototype | weakSetPrototype
  | promisePrototype | promiseConstructor
  | bufferPrototype | bufferConstructor | dataViewPrototype
  | typedPrototype | typedConstructor | typedPrototypeOf (t : ElementType) | typedConstructorOf (t : ElementType)
  | datePrototype | regexpPrototype | regexpConstructor
  | arrayConstructor | thrower | arrayValues | symbolConstructor
  deriving DecidableEq

def ErrorClass.number : ErrorClass → Nat
  | error => 0
  | evalError => 1
  | rangeError => 2
  | referenceError => 3
  | syntaxError => 4
  | typeError => 5
  | uriError => 6
  | internalError => 7
  | aggregateError => 8

def ElementType.all : List ElementType :=
  [int8, uint8, uint8Clamped, int16, uint16, int32, uint32, bigInt64, bigUint64, float32, float64]

def ElementType.number : ElementType → Nat
  | int8 => 0
  | uint8 => 1
  | uint8Clamped => 2
  | int16 => 3
  | uint16 => 4
  | int32 => 5
  | uint32 => 6
  | bigInt64 => 7
  | bigUint64 => 8
  | float32 => 9
  | float64 => 10

def Intrinsic.ref : Intrinsic → Nat
  | objectPrototype => 0
  | functionPrototype => 1
  | globalObject => 2
  | arrayPrototype => 3
  | stringPrototype => 4
  | numberPrototype => 5
  | booleanPrototype => 6
  | symbolPrototype => 7
  | bigintPrototype => 8
  | iteratorPrototype => 9
  | arrayIteratorPrototype => 10
  | stringIteratorPrototype => 11
  | collectionIteratorPrototype isSet => if isSet then 13 else 12
  | matchIteratorPrototype => 14
  | generatorPrototype => 15
  | asyncGeneratorPrototype => 16
  | generatorFunctionPrototype => 17
  | asyncFunctionPrototype => 18
  | asyncGeneratorFunctionPrototype => 19
  | mapPrototype => 20
  | setPrototype => 21
  | weakMapPrototype => 22
  | weakSetPrototype => 23
  | promisePrototype => 24
  | promiseConstructor => 25
  | bufferPrototype => 26
  | bufferConstructor => 27
  | dataViewPrototype => 28
  | typedPrototype => 29
  | typedConstructor => 30
  | datePrototype => 31
  | regexpPrototype => 32
  | regexpConstructor => 33
  | arrayConstructor => 34
  | thrower => 35
  | arrayValues => 36
  | symbolConstructor => 37
  | errorPrototype kind => 40 + kind.number
  | typedPrototypeOf t => 50 + t.number
  | typedConstructorOf t => 61 + t.number

def Intrinsic.count : Nat := 72

/-- Symbols that every realm has, by number. -/
inductive WellKnown
  | iterator | asyncIterator | hasInstance | toPrimitive | toStringTag | species | isConcatSpreadable
  | unscopables | matching | matchAll | replace | search | split
  deriving DecidableEq

namespace WellKnown

/-- All of them, in the order of their numbers. -/
def all : List WellKnown :=
  [iterator, asyncIterator, hasInstance, toPrimitive, toStringTag, species, isConcatSpreadable, unscopables,
    matching, matchAll, replace, search, split]

def id : WellKnown → Nat
  | iterator => 0
  | asyncIterator => 1
  | hasInstance => 2
  | toPrimitive => 3
  | toStringTag => 4
  | species => 5
  | isConcatSpreadable => 6
  | unscopables => 7
  | matching => 8
  | matchAll => 9
  | replace => 10
  | search => 11
  | split => 12

/-- The name of the symbol among the properties of `Symbol`. -/
def name : WellKnown → String
  | iterator => "iterator"
  | asyncIterator => "asyncIterator"
  | hasInstance => "hasInstance"
  | toPrimitive => "toPrimitive"
  | toStringTag => "toStringTag"
  | species => "species"
  | isConcatSpreadable => "isConcatSpreadable"
  | unscopables => "unscopables"
  | matching => "match"
  | matchAll => "matchAll"
  | replace => "replace"
  | search => "search"
  | split => "split"

def key (w : WellKnown) : Key := .symbol w.id

end WellKnown

/-! ## Objects of a realm -/

/-- Sets an own property without asking anyone. -/
def Obj.put (o : Obj) (k : Key) (p : Property) : Obj := { o with properties := o.properties.insert k p }

namespace Realm

def object (r : Realm) (ref : Nat) : Obj := r.objects[ref]?.getD default

def allocate (r : Realm) (o : Obj) : Nat × Realm := (r.objects.size, { r with objects := r.objects.push o })

def modifyObject (r : Realm) (ref : Nat) (f : Obj → Obj) : Realm := { r with objects := r.objects.modify ref f }

/-- The host memory that an object shows. -/
def loan? (r : Realm) (ref : Nat) : Option Loan := r.objects[ref]?.bind Obj.lent

end Realm

end BrainHost.Script
