import BrainHost.Script.Action

/-! # Elements in bytes

Numbers as they lie in a buffer. -/

namespace BrainHost.Script

/-- The number that bytes write, the least byte first. -/
def littleEndian (bs : List UInt8) : Nat := bs.foldr (fun b n => b.toNat + 256 * n) 0

/-- The bytes of a number, the least first. -/
def toLittleEndian : Nat → Nat → List UInt8
  | 0, _ => []
  | count + 1, n => (n % 256).toUInt8 :: toLittleEndian count (n / 256)

namespace ElementType

def size : ElementType → Nat
  | int8 => 1
  | uint8 => 1
  | uint8Clamped => 1
  | int16 => 2
  | uint16 => 2
  | int32 => 4
  | uint32 => 4
  | bigInt64 => 8
  | bigUint64 => 8
  | float32 => 4
  | float64 => 8

def className : ElementType → String
  | int8 => "Int8Array"
  | uint8 => "Uint8Array"
  | uint8Clamped => "Uint8ClampedArray"
  | int16 => "Int16Array"
  | uint16 => "Uint16Array"
  | int32 => "Int32Array"
  | uint32 => "Uint32Array"
  | bigInt64 => "BigInt64Array"
  | bigUint64 => "BigUint64Array"
  | float32 => "Float32Array"
  | float64 => "Float64Array"

def isBig : ElementType → Bool
  | bigInt64 => true
  | bigUint64 => true
  | _ => false

/-- The value of an element's bytes, the least first. -/
def decode (t : ElementType) (bs : List UInt8) : Value :=
  let n := littleEndian bs
  match t with
  | uint8 => .number (natFloat n)
  | uint8Clamped => .number (natFloat n)
  | uint16 => .number (natFloat n)
  | uint32 => .number (natFloat n)
  | int8 => .number (intFloat (wrapSigned 8 n))
  | int16 => .number (intFloat (wrapSigned 16 n))
  | int32 => .number (intFloat (wrapSigned 32 n))
  | bigInt64 => .bigint (wrapSigned 64 n)
  | bigUint64 => .bigint n
  | float32 => .number (Float32.ofBits n.toUInt32).toFloat
  | float64 => .number (Float.ofBits n.toUInt64)

/-- A double as a byte, rounded to the nearest with ties to even and held within the range. -/
def clampByte (x : Float) : Nat :=
  if !(0 < x) then 0
  else if 255 ≤ x then 255
  else
    let n := x.toUInt64.toNat
    let rest := x - natFloat n
    if rest < 0.5 then n else if 0.5 < rest then n + 1 else if n % 2 = 0 then n else n + 1

/-- The bytes of an element, the least first. -/
def encode (t : ElementType) (v : Value) : List UInt8 :=
  match v with
  | .number x =>
    match t with
    | float32 => toLittleEndian 4 x.toFloat32.toBits.toNat
    | float64 => toLittleEndian 8 x.toBits.toNat
    | uint8Clamped => toLittleEndian 1 (clampByte x)
    | t => toLittleEndian t.size (wrapUnsigned (8 * t.size) (toInteger x))
  | .bigint n => toLittleEndian t.size (wrapUnsigned 64 n)
  | _ => toLittleEndian t.size 0

end ElementType

def sliceBytes (bytes : ByteArray) (start count : Nat) : List UInt8 :=
  (List.range count).map fun i => bytes.get! (start + i)

/-- Bytes in their places, from one place on. -/
def placed (start : Nat) (bs : List UInt8) : List (Nat × UInt8) := bs.mapIdx fun i b => (start + i, b)

def zeroBytes (count : Nat) : ByteArray := ⟨Array.replicate count 0⟩

/-- The bytes of a buffer; one that is cut off has none. -/
def Realm.bytes? (r : Realm) (buffer : Nat) : Option ByteArray :=
  let o := r.object buffer
  match o.lent, o.kind with
  | some loan, _ => loan.bytes
  | none, .buffer bytes => some bytes
  | none, _ => none

def Realm.viewLength (r : Realm) (view : View) : Nat :=
  if (r.bytes? view.buffer).isSome then view.length else 0

def Realm.element? (r : Realm) (t : ElementType) (view : View) (i : Nat) : Option Value :=
  match r.bytes? view.buffer with
  | none => none
  | some bytes =>
    if i < view.length then some (t.decode (sliceBytes bytes (view.offset + i * t.size) t.size)) else none

/-- Puts bytes in their places in a buffer; one that is cut off takes none. -/
def Obj.overwrite (o : Obj) (new : List (Nat × UInt8)) : Obj :=
  -- Each part is taken out of the object, so that bytes are written where they are.
  match o with
  | ⟨kind, proto, extensible, properties, secrets, some ⟨some bytes, writes⟩⟩ =>
    ⟨kind, proto, extensible, properties, secrets, some ⟨some (BrainHost.overwrite bytes new), writes ++ new.toArray⟩⟩
  | ⟨.buffer bytes, proto, extensible, properties, secrets, none⟩ =>
    ⟨.buffer (BrainHost.overwrite bytes new), proto, extensible, properties, secrets, none⟩
  | o => o

/-- Writes bytes into a buffer at a place. -/
def Realm.write (r : Realm) (buffer start : Nat) (bs : List UInt8) : Realm :=
  r.modifyObject buffer fun o => o.overwrite (placed start bs)

theorem Realm.write_reaches (r : Realm) (buffer start : Nat) (bs : List UInt8) : r.Reaches (r.write buffer start bs) where
  jobs := List.prefix_rfl
  loans ref := by
    have same : ∃ new, r.loan? ref = (r.loan? ref).map (Loan.written · new) := (Reaches.refl r).loans ref
    simp only [loan?, write, modifyObject, Array.getElem?_modify] at same ⊢
    split
    · next h =>
      subst h
      cases found : r.objects[buffer]? with
      | none => exact ⟨[], rfl⟩
      | some o =>
        rw [found] at same
        simp only [Option.map_some, Option.bind_some] at same ⊢
        unfold Obj.overwrite
        split
        · exact ⟨placed start bs, rfl⟩
        · exact ⟨[], rfl⟩
        · exact same
    · exact same

def writeBuffer (buffer start : Nat) (bs : List UInt8) : Act Unit where
  run r := .ok () (r.write buffer start bs)
  reaches r := r.write_reaches buffer start bs

end BrainHost.Script
