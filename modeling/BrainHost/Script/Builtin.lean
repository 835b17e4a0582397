import BrainHost.Script.Builtin.Array
import BrainHost.Script.Builtin.Buffer
import BrainHost.Script.Builtin.Capability
import BrainHost.Script.Builtin.Collection
import BrainHost.Script.Builtin.Date
import BrainHost.Script.Builtin.Function
import BrainHost.Script.Builtin.Math
import BrainHost.Script.Builtin.Primitive
import BrainHost.Script.Builtin.Promise
import BrainHost.Script.Builtin.RegExp
import BrainHost.Script.Builtin.Text

/-! # Calls of built-in functions

What every built-in function does, and whether the stack shows it. -/

namespace BrainHost.Script

open Act

/-- Calls a built-in function. The new target is undefined unless it is called as a constructor. -/
def callNative (f : Native) (this : Value) (args : Array Value) (newTarget : Value) : Act Value :=
  match f with
  | .global .eval => evaluator.evalText none (argOf args 0)
  | .global f => callGlobal f args
  | .object f => callObject f this args newTarget
  | .function f => callFunction f this args newTarget
  | .error f => callError f this args newTarget
  | .primitive f => callPrimitive f this args newTarget
  | .string f => callString f this args newTarget
  | .array f => callArray f this args newTarget
  | .math f => callMath f args
  | .jsonParse => parseJson args
  | .jsonStringify => stringifyJson args
  | .reflect f => callReflect f args
  | .proxy =>
    if newTarget.isUndefined then typeError "must be called with new"
    else do pure (.object (← newProxy args))
  | .proxyRevocable => newRevocable args
  | .revoke proxy => revokeProxy proxy
  | .collection f isSet weak => callCollection f isSet weak this args newTarget
  | .promise f => callPromise f this args newTarget
  | .iterator f => callIterator f this args
  | .buffer f => callBuffer f this args newTarget
  | .date f => callDate f this args newTarget
  | .regexp f => callRegExp f this args newTarget
  | .self => pure this
  | .thrower => typeError "invalid property access"
  | .capability c => callCapability c args

/-- Whether a built-in function shows in the stack. Those of the host and those that only pass an
outcome on do not. -/
def Native.showsInStack : Native → Bool
  | .capability _ => false
  | .revoke _ => false
  | .promise (.settle _ _ _) => false
  | .promise (.takeCapability _) => false
  | .promise (.collect _ _ _ _ _) => false
  | .promise (.afterFinally _ _ _) => false
  | .promise (.constant _ _) => false
  | .promise (.wake _ _ _) => false
  | _ => true

end BrainHost.Script
