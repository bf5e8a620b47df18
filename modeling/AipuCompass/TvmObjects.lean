import AipuCompass.Os

/-! The helpers of `tvm.aipu.utils` that make TVM objects: `vec_type`, `double_elem_width` and
`half_elem_width` on data types, and `canonicalize_target`. A TVM `DataType` is a `DLDataType`,
whose element width is a `uint8` and whose lane count is a `uint16`; `with_bits` and
`with_lanes` store their argument in those fields, so a value out of range wraps around, while
the arithmetic the helpers do on the fields is Python's. The target parser is a parameter. -/
namespace AipuCompass

/-- The type codes of TVM's `DataType`; the helpers below carry the code over unchanged. -/
inductive TypeCode
  | int
  | uint
  | float
  | bfloat
  | handle
  deriving DecidableEq, Repr

/-- A TVM `DataType`: type code, element width in bits and number of lanes. -/
structure DataType where
  code : TypeCode
  bits : Fin 256
  lanes : Fin 65536
  deriving DecidableEq, Repr

namespace DataType

/-- `dtype.with_bits(bits)`. -/
def withBits (t : DataType) (bits : ℕ) : DataType := { t with bits := ⟨bits % 256,Nat.mod_lt _ (by decide)⟩ }

/-- `dtype.with_lanes(lanes)`. -/
def withLanes (t : DataType) (lanes : ℕ) : DataType :=
  { t with lanes := ⟨lanes % 65536,Nat.mod_lt _ (by decide)⟩ }

end DataType

open DataType

/-- `vec_type(dtype)`: `256 // bits` raises `ZeroDivisionError` for a type without bits. -/
def vecType (dtype : DataType) : Except PyExc DataType :=
  if dtype.bits.val = 0 then .error .zeroDivisionError else .ok (dtype.withLanes (256 / dtype.bits.val))

/-- `double_elem_width(vdtype, allow_64bit)`. -/
def doubleElemWidth (vdtype : DataType) (allow64bit : Bool) : DataType :=
  if ¬allow64bit ∧ vdtype.bits.val = 32 then vdtype
  else
    let newBits := vdtype.bits.val * 2
    let newLanes := if newBits * vdtype.lanes.val > 256 then vdtype.lanes.val / 2 else vdtype.lanes.val
    (vdtype.withBits newBits).withLanes newLanes

/-- `half_elem_width(vdtype, double_lanes)`. -/
def halfElemWidth (vdtype : DataType) (doubleLanes : Bool) : Except PyExc DataType :=
  if vdtype.bits.val ≥ 8 then
    let newLanes := if doubleLanes then vdtype.lanes.val * 2 else vdtype.lanes.val
    .ok ((vdtype.withBits (vdtype.bits.val / 2)).withLanes newLanes)
  else .error (.assertionError [])

example : vecType ⟨.float,32,1⟩ = .ok ⟨.float,32,8⟩ := rfl

/-- `u8x8` doubles to `u16x8`, and `u64x4` with 64-bit allowed to a type whose 128-bit elements
no longer fit: `u128x2`. -/
example : doubleElemWidth ⟨.uint,8,8⟩ false = ⟨.uint,16,8⟩ ∧
    doubleElemWidth ⟨.uint,64,4⟩ true = ⟨.uint,128,2⟩ := by decide

/-- Doubling the lanes of `u16x32768` wraps the lane count around to 0. -/
example : halfElemWidth ⟨.uint,16,32768⟩ true = .ok ⟨.uint,8,0⟩ := rfl

/-- The argument of `canonicalize_target`: a `tvm.target.Target` of the parser's type `T`, a
`str`, or any other value, known by the text of `type(target)`. -/
inductive TargetArg (T : Type)
  | target (t : T)
  | str (s : PyStr)
  | other (typeText : PyStr)

/-- Lines 192-193: the string handed to `tvm.target.Target`. -/
def targetString (target : PyStr) : PyStr :=
  if (lit "aipu").isPrefixOf target then target else lit "aipu -mcpu=" ++ target

/-- `canonicalize_target(target)`, with `parse` for `tvm.target.Target(...)`. -/
def canonicalizeTarget {T : Type} (parse : PyStr → Except PyExc T) : TargetArg T → Except PyExc T
  | .target t => .ok t
  | .str s => parse (targetString s)
  | .other typeText => .error (.assertionError (lit "Unsupported target type: " ++ typeText ++ lit "."))

example : targetString (lit "X2_1204") = lit "aipu -mcpu=X2_1204" := by decide

end AipuCompass
