import BrainHost.Engine

/-! # Built-in functions

The names of all functions that are not written in the script. -/

namespace BrainHost.Script

inductive GlobalFunction
  | eval | parseInt | parseFloat | isNaN | isFinite
  | encodeURI | encodeURIComponent | decodeURI | decodeURIComponent | escape | unescape
  deriving DecidableEq

/-- `Object` and its functions. -/
inductive ObjectFunction
  | construct | assign | create | defineProperties | defineProperty | entries | freeze | fromEntries
  | getOwnPropertyDescriptor | getOwnPropertyDescriptors | getOwnPropertyNames | getOwnPropertySymbols
  | getPrototypeOf | hasOwn | is | isExtensible | isFrozen | isSealed | keys | preventExtensions | sealUp
  | setPrototypeOf | values
  | hasOwnProperty | isPrototypeOf | propertyIsEnumerable | toLocaleString | toString | valueOf
  | getProto | setProto | defineGetter | defineSetter | lookupGetter | lookupSetter
  deriving DecidableEq

/-- `Function` and its functions. -/
inductive FunctionFunction
  | construct (coroutine : Bool) (generator : Bool) | prototype
  | apply | bind | call | toString | hasInstance
  deriving DecidableEq

inductive ErrorClass
  | error | evalError | rangeError | referenceError | syntaxError | typeError | uriError | internalError
  | aggregateError
  deriving DecidableEq

def ErrorClass.name : ErrorClass → String
  | error => "Error"
  | evalError => "EvalError"
  | rangeError => "RangeError"
  | referenceError => "ReferenceError"
  | syntaxError => "SyntaxError"
  | typeError => "TypeError"
  | uriError => "URIError"
  | internalError => "InternalError"
  | aggregateError => "AggregateError"

def ErrorClass.all : List ErrorClass :=
  [error, evalError, rangeError, referenceError, syntaxError, typeError, uriError, internalError, aggregateError]

inductive ErrorFunction
  | construct (kind : ErrorClass) | toString
  deriving DecidableEq

inductive PrimitiveFunction
  | boolean | booleanToString | booleanValueOf
  | number | numberIsFinite | numberIsInteger | numberIsNaN | numberIsSafeInteger
  | numberToExponential | numberToFixed | numberToPrecision | numberToString | numberValueOf
  | symbol | symbolFor | symbolKeyFor | symbolToString | symbolValueOf | symbolDescription | symbolToPrimitive
  | bigint | bigintAsIntN | bigintAsUintN | bigintToString | bigintValueOf
  deriving DecidableEq

/-- `String` and its functions. -/
inductive StringFunction
  | construct | fromCharCode | fromCodePoint | raw
  | atIndex | charAt | charCodeAt | codePointAt | concat | endsWith | includes | indexOf | lastIndexOf
  | localeCompare | matchFirst | matchAll | normalize | padEnd | padStart | replicate | replace | replaceAll | search
  | slice | split | startsWith | substr | substring | toLowerCase | toUpperCase | toString
  | trim | trimEnd | trimStart | iterator
  deriving DecidableEq

/-- `Array` and its functions. -/
inductive ArrayFunction
  | construct | isArray | fromItems | ofItems | speciesOf
  | atIndex | concat | copyWithin | entries | every | fill | filter | find | findIndex | findLast | findLastIndex
  | flat | flatMap | forEach | includes | indexOf | join | keys | lastIndexOf | map | pop | push
  | reduce | reduceRight | reverse | shift | slice | some | sort | splice | toLocaleString | toString
  | unshift | values
  deriving DecidableEq

/-- Functions of `Math`. -/
inductive MathFunction
  | abs | acos | acosh | asin | asinh | atan | atan2 | atanh | cbrt | ceil | clz32 | cos | cosh | exp
  | expm1 | floor | fround | hypot | imul | log | log10 | log1p | log2 | max | min | pow | random | round
  | sign | sin | sinh | sqrt | tan | tanh | trunc
  deriving DecidableEq

/-- Functions of `Reflect`. -/
inductive ReflectFunction
  | apply | construct | defineProperty | deleteProperty | get | getOwnPropertyDescriptor | getPrototypeOf
  | has | isExtensible | ownKeys | preventExtensions | set | setPrototypeOf
  deriving DecidableEq

inductive CollectionFunction
  | construct | get | set | add | has | delete | clear | forEach | size | keys | values | entries
  deriving DecidableEq

/-- `Promise` and its functions. Some belong to a promise or a running function. -/
inductive PromiseFunction
  | construct | all | allSettled | any | race | reject | resolve | andThen | onReject | afterwards
  /-- Settles a promise, once. -/
  | settle (promise : Nat) (rejects : Bool) (latch : Nat)
  /-- Takes the functions that a constructor of promises hands over. -/
  | takeCapability (holder : Nat)
  /-- Puts an outcome into the list of all outcomes. -/
  | collect (list : Nat) (index : Nat) (counter : Nat) (latch : Nat) (shape : Nat)
  | afterFinally (action : Nat) (constructor : Nat) (rejects : Bool)
  | constant (holder : Nat) (throws : Bool)
  /-- Goes on with a suspended function. -/
  | wake (owner thread : Nat) (rejects : Bool)
  deriving DecidableEq

inductive IteratorFunction
  | self | next | generatorNext | generatorReturn | generatorThrow
  | asyncNext | asyncReturn | asyncThrow
  deriving DecidableEq

inductive ElementType
  | int8 | uint8 | uint8Clamped | int16 | uint16 | int32 | uint32 | bigInt64 | bigUint64 | float32 | float64
  deriving DecidableEq

inductive BufferFunction
  | construct | isView | byteLength | slice
  | viewConstruct | viewBuffer | viewByteLength | viewByteOffset
  | viewGet (t : ElementType) | viewSet (t : ElementType)
  | typedAbstract | typedConstruct (t : ElementType) | typedFrom | typedOf
  | typedBuffer | typedByteLength | typedByteOffset | typedLength | typedTag
  | typedAt | typedCopyWithin | typedEntries | typedEvery | typedFill | typedFilter | typedFind | typedFindIndex
  | typedFindLast | typedFindLastIndex
  | typedForEach | typedIncludes | typedIndexOf | typedJoin | typedKeys | typedLastIndexOf | typedMap
  | typedReduce | typedReduceRight | typedReverse | typedSet | typedSlice | typedSome | typedSort
  | typedSubarray | typedValues
  deriving DecidableEq

inductive DatePart
  | fullYear | month | date | hours | minutes | seconds | milliseconds | day
  deriving DecidableEq

/-- `Date` and its functions. -/
inductive DateFunction
  | construct | now | parse | utc
  | get (part : DatePart) | set (part : DatePart) | getTime | setTime | getTimezoneOffset
  | toISOString | toJSON | toString | toDateString | toTimeString | toUTCString | toPrimitive
  deriving DecidableEq

/-- `RegExp` and its functions. -/
inductive RegExpFunction
  | construct | exec | test | toString | source | flags | flag (letter : Char) | replace | matchFirst | matchAll
  | search | split
  deriving DecidableEq

/-- A built-in function. -/
inductive Native
  | global (f : GlobalFunction)
  | object (f : ObjectFunction)
  | function (f : FunctionFunction)
  | error (f : ErrorFunction)
  | primitive (f : PrimitiveFunction)
  | string (f : StringFunction)
  | array (f : ArrayFunction)
  | math (f : MathFunction)
  | jsonParse
  | jsonStringify
  | reflect (f : ReflectFunction)
  | proxy
  | proxyRevocable
  | revoke (proxy : Nat)
  | collection (f : CollectionFunction) (isSet weak : Bool)
  | promise (f : PromiseFunction)
  | iterator (f : IteratorFunction)
  | buffer (f : BufferFunction)
  | date (f : DateFunction)
  | regexp (f : RegExpFunction)
  /-- Gives back the object it is called on. -/
  | self
  /-- Throws, where the language forbids access. -/
  | thrower
  | capability (c : Capability)
  deriving DecidableEq

end BrainHost.Script
