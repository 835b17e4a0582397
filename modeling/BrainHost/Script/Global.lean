import BrainHost.Script.Builtin

/-! # The global object

The objects that a new realm has: prototypes, constructors and the functions of each. -/

namespace BrainHost.Script

/-- A function of a table: its name, its length and what it does. -/
abbrev Entry := String × Nat × Native

def nativeObject (f : Native) (name : String) (length : Nat) : Obj :=
  let o : Obj := { kind := .native f, proto := some Intrinsic.functionPrototype.ref }
  (o.put lengthKey (.readOnly (.nat length))).put (.text "name") (.readOnly (.text name))

namespace Realm

def give (r : Realm) (target : Nat) (k : Key) (p : Property) : Realm := r.modifyObject target fun o => o.store k p

def addNative (r : Realm) (f : Native) (name : String) (length : Nat) : Nat × Realm :=
  r.allocate (nativeObject f name length)

def giveMethods (r : Realm) (target : Nat) (entries : List Entry) : Realm :=
  entries.foldl (fun r (name, length, f) =>
    let (ref, r) := r.addNative f name length
    r.give target (.text name) (.hidden (.object ref))) r

def giveSymbols (r : Realm) (target : Nat) (entries : List (WellKnown × Nat × Native)) : Realm :=
  entries.foldl (fun r (w, length, f) =>
    let (ref, r) := r.addNative f s!"[Symbol.{w.name}]" length
    r.give target w.key (.hidden (.object ref))) r

def giveGetters (r : Realm) (target : Nat) (entries : List (String × Native)) : Realm :=
  entries.foldl (fun r (name, f) =>
    let (ref, r) := r.addNative f s!"get {name}" 0
    r.give target (.text name) ⟨.accessor (.object ref) .undefined, false, true⟩) r

def giveSpecies (r : Realm) (target : Nat) : Realm :=
  let (ref, r) := r.addNative .self "get [Symbol.species]" 0
  r.give target WellKnown.species.key ⟨.accessor (.object ref) .undefined, false, true⟩

/-- Gives an object a further name for one of its properties. -/
def giveAlias (r : Realm) (target : Nat) (k name : Key) : Realm :=
  match (r.object target).properties.get? name with
  | some p => r.give target k p
  | none => r

/-- Gives an object the name that its kind is described by. -/
def giveTag (r : Realm) (target : Nat) (tag : String) : Realm :=
  r.give target WellKnown.toStringTag.key (.readOnly (.text tag))

def giveConstants (r : Realm) (target : Nat) (constants : List (String × Float)) : Realm :=
  constants.foldl (fun r (name, x) => r.give target (.text name) (.constant (.number x))) r

def giveGlobal (r : Realm) (name : String) (v : Value) : Realm :=
  r.give Intrinsic.globalObject.ref (.text name) (.hidden v)

def makeConstructor (r : Realm) (ref : Nat) (entry : Entry) (proto : Nat) : Realm :=
  let (name, length, f) := entry
  let r := r.modifyObject ref fun _ => nativeObject f name length
  let r := r.give ref (.text "prototype") (.constant (.object proto))
  r.give proto (.text "constructor") (.hidden (.object ref))

/-- Makes a constructor; it is a global name. -/
def addConstructor (r : Realm) (entry : Entry) (proto : Nat) : Nat × Realm :=
  let (ref, r) := r.allocate {}
  let r := r.makeConstructor ref entry proto
  (ref, r.giveGlobal entry.1 (.object ref))

def shape (r : Realm) (i : Intrinsic) (proto : Option Nat) (kind : Kind) : Realm :=
  r.modifyObject i.ref fun o => { o with proto, kind }

def addLibrary (r : Realm) (name : String) (entries : List Entry) : Nat × Realm :=
  let (ref, r) := r.allocate { proto := some Intrinsic.objectPrototype.ref }
  let r := r.giveTag ref name
  let r := r.giveMethods ref entries
  (ref, r.giveGlobal name (.object ref))

end Realm

open Realm

/-! ## Functions and objects -/

/-- Functions of `Object`. -/
def objectStatics : List Entry :=
  [("create", 2, .object .create), ("getPrototypeOf", 1, .object .getPrototypeOf),
    ("setPrototypeOf", 2, .object .setPrototypeOf), ("defineProperty", 3, .object .defineProperty),
    ("defineProperties", 2, .object .defineProperties),
    ("getOwnPropertyNames", 1, .object .getOwnPropertyNames),
    ("getOwnPropertySymbols", 1, .object .getOwnPropertySymbols), ("keys", 1, .object .keys),
    ("values", 1, .object .values), ("entries", 1, .object .entries),
    ("isExtensible", 1, .object .isExtensible), ("preventExtensions", 1, .object .preventExtensions),
    ("getOwnPropertyDescriptor", 2, .object .getOwnPropertyDescriptor),
    ("getOwnPropertyDescriptors", 1, .object .getOwnPropertyDescriptors), ("is", 2, .object .is),
    ("assign", 2, .object .assign), ("seal", 1, .object .sealUp), ("freeze", 1, .object .freeze),
    ("isSealed", 1, .object .isSealed), ("isFrozen", 1, .object .isFrozen),
    ("fromEntries", 1, .object .fromEntries), ("hasOwn", 2, .object .hasOwn)]

def objectMethods : List Entry :=
  [("toString", 0, .object .toString), ("toLocaleString", 0, .object .toLocaleString),
    ("valueOf", 0, .object .valueOf), ("hasOwnProperty", 1, .object .hasOwnProperty),
    ("isPrototypeOf", 1, .object .isPrototypeOf),
    ("propertyIsEnumerable", 1, .object .propertyIsEnumerable),
    ("__defineGetter__", 2, .object .defineGetter), ("__defineSetter__", 2, .object .defineSetter),
    ("__lookupGetter__", 1, .object .lookupGetter), ("__lookupSetter__", 1, .object .lookupSetter)]

def setUpObjects (r : Realm) : Realm :=
  let base := Intrinsic.objectPrototype.ref
  let functions := Intrinsic.functionPrototype.ref
  let r := r.shape .objectPrototype none .ordinary
  let r := r.modifyObject functions fun _ =>
    { nativeObject (.function .prototype) "" 0 with proto := some base }
  let r := r.modifyObject Intrinsic.thrower.ref fun _ =>
    { nativeObject .thrower "" 0 with extensible := false }
  let r := r.giveMethods base objectMethods
  let (getter, r) := r.addNative (.object .getProto) "get __proto__" 0
  let (setter, r) := r.addNative (.object .setProto) "set __proto__" 1
  let r := r.give base (.text "__proto__") ⟨.accessor (.object getter) (.object setter), false, true⟩
  let (object, r) := r.addConstructor ("Object", 1, .object .construct) base
  let r := r.giveMethods object objectStatics
  let r := r.giveMethods functions
    [("call", 1, .function .call), ("apply", 2, .function .apply), ("bind", 1, .function .bind),
      ("toString", 0, .function .toString)]
  let (test, r) := r.addNative (.function .hasInstance) "[Symbol.hasInstance]" 1
  let r := r.give functions WellKnown.hasInstance.key (.constant (.object test))
  let refuse := Value.object Intrinsic.thrower.ref
  let r := r.give functions (.text "caller") ⟨.accessor refuse refuse, false, true⟩
  let r := r.give functions (.text "arguments") ⟨.accessor refuse refuse, false, true⟩
  (r.addConstructor ("Function", 1, .function (.construct false false)) functions).2

def setUpCoroutines (r : Realm) : Realm :=
  let base := some Intrinsic.objectPrototype.ref
  let functions := some Intrinsic.functionPrototype.ref
  let r := r.shape .iteratorPrototype base .ordinary
  let r := r.giveSymbols Intrinsic.iteratorPrototype.ref [(.iterator, 0, .iterator .self)]
  let (later, r) := r.allocate { proto := base }
  let r := r.giveSymbols later [(.asyncIterator, 0, .iterator .self)]
  let r := r.shape .generatorPrototype (some Intrinsic.iteratorPrototype.ref) .ordinary
  let r := r.giveMethods Intrinsic.generatorPrototype.ref
    [("next", 1, .iterator .generatorNext), ("return", 1, .iterator .generatorReturn),
      ("throw", 1, .iterator .generatorThrow)]
  let r := r.giveTag Intrinsic.generatorPrototype.ref "Generator"
  let r := r.shape .asyncGeneratorPrototype (some later) .ordinary
  let r := r.giveMethods Intrinsic.asyncGeneratorPrototype.ref
    [("next", 1, .iterator .asyncNext), ("return", 1, .iterator .asyncReturn),
      ("throw", 1, .iterator .asyncThrow)]
  let r := r.giveTag Intrinsic.asyncGeneratorPrototype.ref "AsyncGenerator"
  let kinds : List (Intrinsic × String × Bool × Bool × Option Intrinsic) :=
    [(.generatorFunctionPrototype, "GeneratorFunction", false, true, some .generatorPrototype),
      (.asyncFunctionPrototype, "AsyncFunction", true, false, none),
      (.asyncGeneratorFunctionPrototype, "AsyncGeneratorFunction", true, true, some .asyncGeneratorPrototype)]
  let parent := (r.object Intrinsic.functionPrototype.ref).properties.get? (.text "constructor")
  let parent := match parent with
    | some ⟨.data (.object ref) _, _, _⟩ => some ref
    | _ => none
  kinds.foldl (fun r (i, name, isAsync, isGenerator, made) =>
    let r := r.shape i functions .ordinary
    let r := r.giveTag i.ref name
    let (ref, r) := r.allocate {}
    let r := r.modifyObject ref fun _ =>
      { nativeObject (.function (.construct isAsync isGenerator)) name 1 with proto := parent }
    let r := r.give ref (.text "prototype") (.constant (.object i.ref))
    let r := r.give i.ref (.text "constructor") (.readOnly (.object ref))
    match made with
    | some m =>
      let r := r.give i.ref (.text "prototype") (.readOnly (.object m.ref))
      r.give m.ref (.text "constructor") (.readOnly (.object i.ref))
    | none => r) r

/-- Adds the class of all errors; gives its constructor too. -/
def addErrors (r : Realm) : Nat × Realm :=
  let root := (Intrinsic.errorPrototype .error).ref
  let r := r.shape (.errorPrototype .error) (some Intrinsic.objectPrototype.ref) .ordinary
  let (base, r) := r.addConstructor ("Error", 1, .error (.construct .error)) root
  let r := r.giveMethods root [("toString", 0, .error .toString)]
  let r := r.give root (.text "name") (.hidden (.text "Error"))
  (base, r.give root (.text "message") (.hidden (.text "")))

/-- Adds a class of errors that comes from the class of all errors. -/
def addErrorClass (base : Nat) (r : Realm) (kind : ErrorClass) : Realm :=
  let i := Intrinsic.errorPrototype kind
  let r := r.shape i (some (Intrinsic.errorPrototype .error).ref) .ordinary
  let length := if kind = .aggregateError then 2 else 1
  let (ref, r) := r.addConstructor (kind.name, length, .error (.construct kind)) i.ref
  let r := r.modifyObject ref fun o => { o with proto := some base }
  let r := r.give i.ref (.text "name") (.hidden (.text kind.name))
  r.give i.ref (.text "message") (.hidden (.text ""))

def setUpErrors (r : Realm) : Realm :=
  let (base, r) := addErrors r
  (ErrorClass.all.drop 1).foldl (addErrorClass base) r

/-! ## Primitives -/

/-- Makes what wraps truth values, numbers and symbols. -/
def setUpPrimitives (r : Realm) : Realm :=
  let base := some Intrinsic.objectPrototype.ref
  let r := r.shape .booleanPrototype base (.primitive (.bool false))
  let (_, r) := r.addConstructor ("Boolean", 1, .primitive .boolean) Intrinsic.booleanPrototype.ref
  let r := r.giveMethods Intrinsic.booleanPrototype.ref
    [("toString", 0, .primitive .booleanToString), ("valueOf", 0, .primitive .booleanValueOf)]
  let r := r.shape .numberPrototype base (.primitive (.number 0))
  let (number, r) := r.addConstructor ("Number", 1, .primitive .number) Intrinsic.numberPrototype.ref
  let r := r.giveMethods Intrinsic.numberPrototype.ref
    [("toExponential", 1, .primitive .numberToExponential), ("toFixed", 1, .primitive .numberToFixed),
      ("toPrecision", 1, .primitive .numberToPrecision), ("toString", 1, .primitive .numberToString),
      ("valueOf", 0, .primitive .numberValueOf)]
  let r := r.giveMethods number
    [("isNaN", 1, .primitive .numberIsNaN), ("isFinite", 1, .primitive .numberIsFinite),
      ("isInteger", 1, .primitive .numberIsInteger), ("isSafeInteger", 1, .primitive .numberIsSafeInteger)]
  let r := ["parseInt", "parseFloat"].foldl (fun r name =>
    match (r.object Intrinsic.globalObject.ref).properties.get? (.text name) with
    | some p => r.give number (.text name) p
    | none => r) r
  let r := r.giveConstants number
    [("MAX_VALUE", Float.ofBits 0x7FEFFFFFFFFFFFFF), ("MIN_VALUE", Float.ofBits 1), ("NaN", nan),
      ("NEGATIVE_INFINITY", -1.0 / 0.0), ("POSITIVE_INFINITY", 1.0 / 0.0),
      ("EPSILON", Float.ofBits 0x3CB0000000000000), ("MAX_SAFE_INTEGER", 9007199254740991.0),
      ("MIN_SAFE_INTEGER", -9007199254740991.0)]
  let r := r.shape .symbolPrototype base .ordinary
  let symbol := Intrinsic.symbolConstructor.ref
  let r := r.makeConstructor symbol ("Symbol", 0, .primitive .symbol) Intrinsic.symbolPrototype.ref
  let r := r.giveGlobal "Symbol" (.object symbol)
  let r := r.giveMethods symbol [("for", 1, .primitive .symbolFor), ("keyFor", 1, .primitive .symbolKeyFor)]
  let r := WellKnown.all.foldl (fun r w => r.give symbol (.text w.name) (.constant (.symbol w.id))) r
  let r := r.giveMethods Intrinsic.symbolPrototype.ref
    [("toString", 0, .primitive .symbolToString), ("valueOf", 0, .primitive .symbolValueOf)]
  let r := r.giveGetters Intrinsic.symbolPrototype.ref [("description", .primitive .symbolDescription)]
  let (convert, r) := r.addNative (.primitive .symbolToPrimitive) "[Symbol.toPrimitive]" 1
  let r := r.give Intrinsic.symbolPrototype.ref WellKnown.toPrimitive.key (.readOnly (.object convert))
  let r := r.giveTag Intrinsic.symbolPrototype.ref "Symbol"
  let r := r.shape .bigintPrototype base .ordinary
  let (bigint, r) := r.addConstructor ("BigInt", 1, .primitive .bigint) Intrinsic.bigintPrototype.ref
  let r := r.giveMethods bigint
    [("asUintN", 2, .primitive .bigintAsUintN), ("asIntN", 2, .primitive .bigintAsIntN)]
  let r := r.giveMethods Intrinsic.bigintPrototype.ref
    [("toString", 0, .primitive .bigintToString), ("valueOf", 0, .primitive .bigintValueOf)]
  r.giveTag Intrinsic.bigintPrototype.ref "BigInt"

def stringMethods : List Entry :=
  [("at", 1, .string .atIndex), ("charCodeAt", 1, .string .charCodeAt), ("charAt", 1, .string .charAt),
    ("concat", 1, .string .concat), ("codePointAt", 1, .string .codePointAt),
    ("indexOf", 1, .string .indexOf), ("lastIndexOf", 1, .string .lastIndexOf),
    ("includes", 1, .string .includes), ("endsWith", 1, .string .endsWith),
    ("startsWith", 1, .string .startsWith), ("match", 1, .string .matchFirst),
    ("matchAll", 1, .string .matchAll), ("search", 1, .string .search), ("split", 2, .string .split),
    ("substring", 2, .string .substring), ("substr", 2, .string .substr), ("slice", 2, .string .slice),
    ("repeat", 1, .string .replicate), ("replace", 2, .string .replace), ("replaceAll", 2, .string .replaceAll),
    ("padEnd", 1, .string .padEnd), ("padStart", 1, .string .padStart), ("trim", 0, .string .trim),
    ("trimEnd", 0, .string .trimEnd), ("trimStart", 0, .string .trimStart), ("toString", 0, .string .toString),
    ("valueOf", 0, .string .toString), ("normalize", 0, .string .normalize),
    ("localeCompare", 1, .string .localeCompare), ("toLowerCase", 0, .string .toLowerCase),
    ("toUpperCase", 0, .string .toUpperCase), ("toLocaleLowerCase", 0, .string .toLowerCase),
    ("toLocaleUpperCase", 0, .string .toUpperCase)]

def setUpTexts (r : Realm) : Realm :=
  let base := some Intrinsic.objectPrototype.ref
  let strings := Intrinsic.stringPrototype.ref
  let r := r.shape .stringPrototype base (.primitive (.string .empty))
  let (string, r) := r.addConstructor ("String", 1, .string .construct) strings
  let r := r.giveMethods string
    [("fromCharCode", 1, .string .fromCharCode), ("fromCodePoint", 1, .string .fromCodePoint),
      ("raw", 1, .string .raw)]
  let r := r.giveMethods strings stringMethods
  let r := r.giveAlias strings (.text "trimRight") (.text "trimEnd")
  let r := r.giveAlias strings (.text "trimLeft") (.text "trimStart")
  let r := r.giveSymbols strings [(.iterator, 0, .string .iterator)]
  let patterns := Intrinsic.regexpPrototype.ref
  let r := r.shape .regexpPrototype base .ordinary
  let regexp := Intrinsic.regexpConstructor.ref
  let r := r.makeConstructor regexp ("RegExp", 2, .regexp .construct) patterns
  let r := r.giveGlobal "RegExp" (.object regexp)
  let r := r.giveSpecies regexp
  let r := r.giveGetters patterns [("flags", .regexp .flags), ("source", .regexp .source)]
  let r := r.giveGetters patterns (regexpFlags.map fun (letter, name) => (name, .regexp (.flag letter)))
  let r := r.giveMethods patterns
    [("exec", 1, .regexp .exec), ("test", 1, .regexp .test), ("toString", 0, .regexp .toString)]
  r.giveSymbols patterns
    [(.replace, 2, .regexp .replace), (.matching, 1, .regexp .matchFirst), (.matchAll, 1, .regexp .matchAll),
      (.search, 1, .regexp .search), (.split, 2, .regexp .split)]

/-! ## Lists and collections -/

def arrayMethods : List Entry :=
  [("at", 1, .array .atIndex), ("concat", 1, .array .concat), ("every", 1, .array .every),
    ("some", 1, .array .some), ("forEach", 1, .array .forEach), ("map", 1, .array .map),
    ("filter", 1, .array .filter), ("reduce", 1, .array .reduce), ("reduceRight", 1, .array .reduceRight),
    ("fill", 1, .array .fill), ("find", 1, .array .find), ("findIndex", 1, .array .findIndex),
    ("findLast", 1, .array .findLast), ("findLastIndex", 1, .array .findLastIndex),
    ("indexOf", 1, .array .indexOf), ("lastIndexOf", 1, .array .lastIndexOf),
    ("includes", 1, .array .includes), ("join", 1, .array .join), ("toString", 0, .array .toString),
    ("toLocaleString", 0, .array .toLocaleString), ("pop", 0, .array .pop), ("push", 1, .array .push),
    ("shift", 0, .array .shift), ("unshift", 1, .array .unshift), ("reverse", 0, .array .reverse),
    ("sort", 1, .array .sort), ("slice", 2, .array .slice), ("splice", 2, .array .splice),
    ("copyWithin", 2, .array .copyWithin), ("flatMap", 1, .array .flatMap), ("flat", 0, .array .flat),
    ("keys", 0, .array .keys), ("entries", 0, .array .entries)]

/-- The names of array functions that a `with` statement does not see. -/
def unscopableNames : List String :=
  ["at", "copyWithin", "entries", "fill", "find", "findIndex", "findLast", "findLastIndex", "flat", "flatMap",
    "includes", "keys", "values"]

def setUpArrays (r : Realm) : Realm :=
  let arrays := Intrinsic.arrayPrototype.ref
  let r := r.shape .arrayPrototype (some Intrinsic.objectPrototype.ref) (.array #[] 0 true)
  let array := Intrinsic.arrayConstructor.ref
  let r := r.makeConstructor array ("Array", 1, .array .construct) arrays
  let r := r.giveGlobal "Array" (.object array)
  let r := r.giveMethods array
    [("isArray", 1, .array .isArray), ("from", 1, .array .fromItems), ("of", 0, .array .ofItems)]
  let r := r.giveSpecies array
  let r := r.giveMethods arrays arrayMethods
  let values := Intrinsic.arrayValues.ref
  let r := r.modifyObject values fun _ => nativeObject (.array .values) "values" 0
  let r := r.give arrays (.text "values") (.hidden (.object values))
  let r := r.give arrays WellKnown.iterator.key (.hidden (.object values))
  let (unseen, r) := r.allocate
    (unscopableNames.foldl (fun o name => o.put (.text name) (.plain (.bool true))) {})
  let r := r.give arrays WellKnown.unscopables.key (.readOnly (.object unseen))
  let iterators : List (Intrinsic × String) :=
    [(.arrayIteratorPrototype, "Array Iterator"), (.stringIteratorPrototype, "String Iterator"),
      (.collectionIteratorPrototype false, "Map Iterator"), (.collectionIteratorPrototype true, "Set Iterator"),
      (.matchIteratorPrototype, "RegExp String Iterator")]
  iterators.foldl (fun r (i, tag) =>
    let r := r.shape i (some Intrinsic.iteratorPrototype.ref) .ordinary
    let r := r.giveMethods i.ref [("next", 0, .iterator .next)]
    r.giveTag i.ref tag) r

def setUpCollection (r : Realm) (isSet weak : Bool) (i : Intrinsic) (names : List (String × Nat × CollectionFunction)) :
    Realm :=
  let name := collectionName isSet weak
  let r := r.shape i (some Intrinsic.objectPrototype.ref) .ordinary
  let (ref, r) := r.addConstructor (name, 0, .collection .construct isSet weak) i.ref
  let r := if weak then r else r.giveSpecies ref
  let r := r.giveMethods i.ref (names.map fun (name, length, f) => (name, length, .collection f isSet weak))
  let r := if weak then r else r.giveGetters i.ref [("size", .collection .size isSet weak)]
  r.giveTag i.ref name

def setUpCollections (r : Realm) : Realm :=
  let r := setUpCollection r false false .mapPrototype
    [("set", 2, .set), ("get", 1, .get), ("has", 1, .has), ("delete", 1, .delete), ("clear", 0, .clear),
      ("forEach", 1, .forEach), ("values", 0, .values), ("keys", 0, .keys), ("entries", 0, .entries)]
  let r := r.giveAlias Intrinsic.mapPrototype.ref WellKnown.iterator.key (.text "entries")
  let r := setUpCollection r true false .setPrototype
    [("add", 1, .add), ("has", 1, .has), ("delete", 1, .delete), ("clear", 0, .clear),
      ("forEach", 1, .forEach), ("values", 0, .values), ("entries", 0, .entries)]
  let r := r.giveAlias Intrinsic.setPrototype.ref (.text "keys") (.text "values")
  let r := r.giveAlias Intrinsic.setPrototype.ref WellKnown.iterator.key (.text "values")
  let r := setUpCollection r false true .weakMapPrototype
    [("set", 2, .set), ("get", 1, .get), ("has", 1, .has), ("delete", 1, .delete)]
  setUpCollection r true true .weakSetPrototype [("add", 1, .add), ("has", 1, .has), ("delete", 1, .delete)]

def setUpPromises (r : Realm) : Realm :=
  let promises := Intrinsic.promisePrototype.ref
  let r := r.shape .promisePrototype (some Intrinsic.objectPrototype.ref) .ordinary
  let promise := Intrinsic.promiseConstructor.ref
  let r := r.makeConstructor promise ("Promise", 1, .promise .construct) promises
  let r := r.giveGlobal "Promise" (.object promise)
  let r := r.giveMethods promise
    [("resolve", 1, .promise .resolve), ("reject", 1, .promise .reject), ("all", 1, .promise .all),
      ("allSettled", 1, .promise .allSettled), ("any", 1, .promise .any), ("race", 1, .promise .race)]
  let r := r.giveSpecies promise
  let r := r.giveMethods promises
    [("then", 2, .promise .andThen), ("catch", 1, .promise .onReject), ("finally", 1, .promise .afterwards)]
  r.giveTag promises "Promise"

/-! ## Buffers -/

/-- The name of an element type, as its functions show it. -/
def ElementType.label : ElementType → String
  | int8 => "Int8"
  | uint8 => "Uint8"
  | uint8Clamped => "Uint8Clamped"
  | int16 => "Int16"
  | uint16 => "Uint16"
  | int32 => "Int32"
  | uint32 => "Uint32"
  | bigInt64 => "BigInt64"
  | bigUint64 => "BigUint64"
  | float32 => "Float32"
  | float64 => "Float64"

def typedMethods : List Entry :=
  [("at", 1, .buffer .typedAt), ("set", 1, .buffer .typedSet), ("values", 0, .buffer .typedValues),
    ("keys", 0, .buffer .typedKeys), ("entries", 0, .buffer .typedEntries),
    ("copyWithin", 2, .buffer .typedCopyWithin), ("every", 1, .buffer .typedEvery),
    ("some", 1, .buffer .typedSome), ("forEach", 1, .buffer .typedForEach), ("map", 1, .buffer .typedMap),
    ("filter", 1, .buffer .typedFilter), ("reduce", 1, .buffer .typedReduce),
    ("reduceRight", 1, .buffer .typedReduceRight), ("fill", 1, .buffer .typedFill),
    ("find", 1, .buffer .typedFind), ("findIndex", 1, .buffer .typedFindIndex),
    ("findLast", 1, .buffer .typedFindLast), ("findLastIndex", 1, .buffer .typedFindLastIndex),
    ("reverse", 0, .buffer .typedReverse), ("slice", 2, .buffer .typedSlice),
    ("subarray", 2, .buffer .typedSubarray), ("sort", 1, .buffer .typedSort), ("join", 1, .buffer .typedJoin),
    ("indexOf", 1, .buffer .typedIndexOf), ("lastIndexOf", 1, .buffer .typedLastIndexOf),
    ("includes", 1, .buffer .typedIncludes)]

def setUpTyped (r : Realm) : Realm :=
  let arrays := Intrinsic.typedPrototype.ref
  let abstract := Intrinsic.typedConstructor.ref
  let r := r.shape .typedPrototype (some Intrinsic.objectPrototype.ref) .ordinary
  let r := r.makeConstructor abstract ("TypedArray", 0, .buffer .typedAbstract) arrays
  let r := r.giveMethods abstract [("from", 1, .buffer .typedFrom), ("of", 0, .buffer .typedOf)]
  let r := r.giveSpecies abstract
  let r := r.giveGetters arrays
    [("length", .buffer .typedLength), ("buffer", .buffer .typedBuffer),
      ("byteLength", .buffer .typedByteLength), ("byteOffset", .buffer .typedByteOffset)]
  let r := r.giveMethods arrays typedMethods
  let r := r.giveAlias arrays WellKnown.iterator.key (.text "values")
  let shared := ["toString", "toLocaleString"]
  let r := shared.foldl (fun r name =>
    match (r.object Intrinsic.arrayPrototype.ref).properties.get? (.text name) with
    | some p => r.give arrays (.text name) p
    | none => r) r
  let (tag, r) := r.addNative (.buffer .typedTag) "get [Symbol.toStringTag]" 0
  let r := r.give arrays WellKnown.toStringTag.key ⟨.accessor (.object tag) .undefined, false, true⟩
  ElementType.all.foldl (fun r t =>
    let i := Intrinsic.typedPrototypeOf t
    let ref := (Intrinsic.typedConstructorOf t).ref
    let name := t.label ++ "Array"
    let r := r.shape i (some arrays) .ordinary
    let r := r.makeConstructor ref (name, 3, .buffer (.typedConstruct t)) i.ref
    let r := r.modifyObject ref fun o => { o with proto := some abstract }
    let r := r.giveGlobal name (.object ref)
    let size := natFloat t.size
    let r := r.giveConstants ref [("BYTES_PER_ELEMENT", size)]
    r.giveConstants i.ref [("BYTES_PER_ELEMENT", size)]) r

def setUpBuffers (r : Realm) : Realm :=
  let base := some Intrinsic.objectPrototype.ref
  let buffers := Intrinsic.bufferPrototype.ref
  let r := r.shape .bufferPrototype base .ordinary
  let buffer := Intrinsic.bufferConstructor.ref
  let r := r.makeConstructor buffer ("ArrayBuffer", 1, .buffer .construct) buffers
  let r := r.giveGlobal "ArrayBuffer" (.object buffer)
  let r := r.giveMethods buffer [("isView", 1, .buffer .isView)]
  let r := r.giveSpecies buffer
  let r := r.giveGetters buffers [("byteLength", .buffer .byteLength)]
  let r := r.giveMethods buffers [("slice", 2, .buffer .slice)]
  let r := r.giveTag buffers "ArrayBuffer"
  let views := Intrinsic.dataViewPrototype.ref
  let r := r.shape .dataViewPrototype base .ordinary
  let (_, r) := r.addConstructor ("DataView", 1, .buffer .viewConstruct) views
  let r := r.giveGetters views
    [("buffer", .buffer .viewBuffer), ("byteLength", .buffer .viewByteLength),
      ("byteOffset", .buffer .viewByteOffset)]
  let types := ElementType.all.filter (· ≠ .uint8Clamped)
  let r := r.giveMethods views (types.map fun t => ("get" ++ t.label, 1, .buffer (.viewGet t)))
  let r := r.giveMethods views (types.map fun t => ("set" ++ t.label, 2, .buffer (.viewSet t)))
  setUpTyped (r.giveTag views "DataView")

/-! ## Dates -/

/-- Functions that read or set a part of a date, of local time and of universal time. -/
def datePartMethods : List Entry :=
  let parts : List (String × Nat × DatePart) :=
    [("FullYear", 3, .fullYear), ("Month", 2, .month), ("Date", 1, .date), ("Hours", 4, .hours),
      ("Minutes", 3, .minutes), ("Seconds", 2, .seconds), ("Milliseconds", 1, .milliseconds), ("Day", 0, .day)]
  parts.flatMap fun (name, length, part) =>
    let getters : List Entry := [("get" ++ name, 0, .date (.get part)), ("getUTC" ++ name, 0, .date (.get part))]
    if part = .day then getters
    else getters ++ [("set" ++ name, length, .date (.set part)), ("setUTC" ++ name, length, .date (.set part))]

def setUpDates (r : Realm) : Realm :=
  let dates := Intrinsic.datePrototype.ref
  let r := r.shape .datePrototype (some Intrinsic.objectPrototype.ref) .ordinary
  let (date, r) := r.addConstructor ("Date", 7, .date .construct) dates
  let r := r.giveMethods date [("now", 0, .date .now), ("parse", 1, .date .parse), ("UTC", 7, .date .utc)]
  let r := r.giveMethods dates
    [("valueOf", 0, .date .getTime), ("toString", 0, .date .toString), ("toUTCString", 0, .date .toUTCString),
      ("toISOString", 0, .date .toISOString), ("toDateString", 0, .date .toDateString),
      ("toTimeString", 0, .date .toTimeString), ("getTimezoneOffset", 0, .date .getTimezoneOffset),
      ("getTime", 0, .date .getTime), ("setTime", 1, .date .setTime), ("toJSON", 1, .date .toJSON)]
  let r := r.giveAlias dates (.text "toGMTString") (.text "toUTCString")
  let r := r.giveMethods dates datePartMethods
  let (convert, r) := r.addNative (.date .toPrimitive) "[Symbol.toPrimitive]" 1
  r.give dates WellKnown.toPrimitive.key (.readOnly (.object convert))

/-! ## Libraries -/

/-- Functions of `Math`. -/
def mathFunctions : List Entry :=
  [("min", 2, .math .min), ("max", 2, .math .max), ("abs", 1, .math .abs), ("floor", 1, .math .floor),
    ("ceil", 1, .math .ceil), ("round", 1, .math .round), ("sqrt", 1, .math .sqrt), ("acos", 1, .math .acos),
    ("asin", 1, .math .asin), ("atan", 1, .math .atan), ("atan2", 2, .math .atan2), ("cos", 1, .math .cos),
    ("exp", 1, .math .exp), ("log", 1, .math .log), ("pow", 2, .math .pow), ("sin", 1, .math .sin),
    ("tan", 1, .math .tan), ("trunc", 1, .math .trunc), ("sign", 1, .math .sign), ("cosh", 1, .math .cosh),
    ("sinh", 1, .math .sinh), ("tanh", 1, .math .tanh), ("acosh", 1, .math .acosh), ("asinh", 1, .math .asinh),
    ("atanh", 1, .math .atanh), ("expm1", 1, .math .expm1), ("log1p", 1, .math .log1p), ("log2", 1, .math .log2),
    ("log10", 1, .math .log10), ("cbrt", 1, .math .cbrt), ("hypot", 2, .math .hypot), ("random", 0, .math .random),
    ("fround", 1, .math .fround), ("imul", 2, .math .imul), ("clz32", 1, .math .clz32)]

/-- Numbers of `Math`. -/
def mathConstants : List (String × Float) :=
  [("E", 2.718281828459045), ("LN10", 2.302585092994046), ("LN2", 0.6931471805599453),
    ("LOG2E", 1.4426950408889634), ("LOG10E", 0.4342944819032518), ("PI", 3.141592653589793),
    ("SQRT1_2", 0.7071067811865476), ("SQRT2", 1.4142135623730951)]

/-- Functions of `Reflect`. -/
def reflectFunctions : List Entry :=
  [("apply", 3, .reflect .apply), ("construct", 2, .reflect .construct),
    ("defineProperty", 3, .reflect .defineProperty), ("deleteProperty", 2, .reflect .deleteProperty),
    ("get", 2, .reflect .get), ("getOwnPropertyDescriptor", 2, .reflect .getOwnPropertyDescriptor),
    ("getPrototypeOf", 1, .reflect .getPrototypeOf), ("has", 2, .reflect .has),
    ("isExtensible", 1, .reflect .isExtensible), ("ownKeys", 1, .reflect .ownKeys),
    ("preventExtensions", 1, .reflect .preventExtensions), ("set", 3, .reflect .set),
    ("setPrototypeOf", 2, .reflect .setPrototypeOf)]

def globalFunctions : List Entry :=
  [("parseInt", 2, .global .parseInt), ("parseFloat", 1, .global .parseFloat), ("isNaN", 1, .global .isNaN),
    ("isFinite", 1, .global .isFinite), ("decodeURI", 1, .global .decodeURI),
    ("decodeURIComponent", 1, .global .decodeURIComponent), ("encodeURI", 1, .global .encodeURI),
    ("encodeURIComponent", 1, .global .encodeURIComponent), ("escape", 1, .global .escape),
    ("unescape", 1, .global .unescape), ("eval", 1, .global .eval)]

/-- Makes libraries and what else is global. -/
def setUpGlobals (r : Realm) : Realm :=
  let global := Intrinsic.globalObject.ref
  let r := r.shape .globalObject (some Intrinsic.objectPrototype.ref) .ordinary
  let r := r.giveMethods global globalFunctions
  let r := r.giveConstants global [("Infinity", 1.0 / 0.0), ("NaN", nan)]
  let r := r.give global (.text "undefined") (.constant .undefined)
  let r := r.giveGlobal "globalThis" (.object global)
  let (math, r) := r.addLibrary "Math" mathFunctions
  let r := r.giveConstants math mathConstants
  let (_, r) := r.addLibrary "Reflect" reflectFunctions
  (r.addLibrary "JSON" [("parse", 2, .jsonParse), ("stringify", 3, .jsonStringify)]).2

/-- Makes proxies, which have no prototype. -/
def setUpProxies (r : Realm) : Realm :=
  let (proxy, r) := r.addNative .proxy "Proxy" 2
  (r.giveMethods proxy [("revocable", 2, .proxyRevocable)]).giveGlobal "Proxy" (.object proxy)

/-- A realm before any script ran. -/
def Realm.initial (maxDepth : Nat) : Realm :=
  let globals : Scope :=
    { parent := none, object := some Intrinsic.globalObject.ref, isVariableScope := true
      bindings := #[⟨thisName, some (.object Intrinsic.globalObject.ref), .free⟩] }
  let r : Realm :=
    { objects := Array.replicate Intrinsic.count {}, scopes := #[globals]
      symbols := (WellKnown.all.map fun w => some (Str.ofString s!"Symbol.{w.name}")).toArray, maxDepth }
  let r := setUpGlobals (setUpObjects r)
  let r := setUpPrimitives (setUpErrors (setUpCoroutines r))
  let r := setUpCollections (setUpArrays (setUpTexts r))
  setUpProxies (setUpDates (setUpBuffers (setUpPromises r)))

def Realm.install (r : Realm) (table : List (String × Capability)) : Realm :=
  table.foldl (fun r (name, c) =>
    let (ref, r) := r.addNative (.capability c) name 0
    r.give Intrinsic.globalObject.ref (.text name) (.plain (.object ref))) r

end BrainHost.Script
