import ShapeAlgebra.Native.Descriptor
import ShapeAlgebra.Registry
import ShapeAlgebra.Ty.Make

/-!
# Types of native arrays

A type whose dimensions have known extents, and whose measure is a scalar or a record of
such types, is a native array. On the way there a type variable among the outer dimensions
becomes a wildcard; on the way back scalars are looked up by name in a registry.
-/
namespace ShapeAlgebra

open Native

/-- Why a type and a native array do not correspond. -/
inductive ConversionError where
  /-- A dimension of `holder` has no extent. -/
  | incompatibleDimension (dimension : Ty) (holder : Ty)
  | incompatibleMeasure (measure : Ty)
  /-- The name of a native scalar is registered for some other type. -/
  | notScalar (primitive : Primitive) (found : Ty)
  /-- No encoding has code units of this width. -/
  | codeUnitWidth (count : UInt64) (width : UInt64)
  | violation (cause : Violation)
  | registry (cause : RegistryError)

def ConversionError.message : ConversionError → String
  | incompatibleDimension dimension holder =>
    "dimension " ++ dimension.canonical ++ " of " ++ holder.canonical ++
      " is not compatible with a native array"
  | incompatibleMeasure measure =>
    "measure " ++ measure.canonical ++ " is not compatible with a native array"
  | notScalar primitive found =>
    "native descriptor " ++ primitive.name ++ " resolved to " ++ found.canonical ++
      ", expected a native scalar"
  | codeUnitWidth count width =>
    "native descriptor " ++ (Descriptor.unicode count width).name ++ " resolved to " ++
      toString width.toNat ++ " byte code units, expected a 1, 2 or 4 byte code unit"
  | violation cause => cause.message
  | registry cause => cause.message

namespace Ty

/-- The extent that stands for any extent. -/
def wildcard : Int64 := -1

def outerExtent (holder : Ty) : Ty → Except ConversionError Int64
  | fixed extent =>
    match Word.toSigned? extent with
    | some n => .ok n
    | none => .error (.incompatibleDimension (fixed extent) holder)
  | intConst value =>
    if 0 ≤ value.toInt then .ok value
    else .error (.incompatibleDimension (intConst value) holder)
  | typeVar _ => .ok wildcard
  | dimension => .error (.incompatibleDimension dimension holder)

def fieldExtent (holder : Ty) : Ty → Except ConversionError UInt64
  | fixed extent => .ok extent
  | intConst value =>
    match Word.unsigned? value.toInt with
    | some n => .ok n
    | none => .error (.incompatibleDimension (intConst value) holder)
  | dimension => .error (.incompatibleDimension dimension holder)

mutual
def nativeElement : Ty → Except ConversionError Descriptor
  | scalar s =>
    match Primitive.ofScalar? s with
    | some p => .ok (.primitive p)
    | none => .error (.incompatibleMeasure (scalar s))
  | record fields => (nativeFields fields).map .structured
  | t => .error (.incompatibleMeasure t)

/-- The native fields of a record, from left to right. -/
def nativeFields : List (String × Ty) → Except ConversionError (List Field)
  | [] => .ok []
  | (name, datashape params label) :: fs => do
    let holder := datashape params label
    let extents ← holder.shape.mapM (fieldExtent holder)
    let element ← nativeLast holder params
    let rest ← nativeFields fs
    return ⟨name, element, extents⟩ :: rest
  | (name, t) :: fs => do
    let element ← nativeElement t
    let rest ← nativeFields fs
    return ⟨name, element, []⟩ :: rest

/-- The native element of the last of the parameters of `holder`. -/
def nativeLast (holder : Ty) : List Ty → Except ConversionError Descriptor
  | [] => .error (.incompatibleMeasure holder)
  | [t] => nativeElement t
  | _ :: t :: ts => nativeLast holder (t :: ts)
end

/-- The native array of a type: its dimensions are converted before its measure. -/
def toNative (t : Ty) : Except ConversionError ArrayForm := do
  let shape ← t.shape.mapM (outerExtent t)
  let element ← nativeElement t.measure
  return ⟨shape, element⟩

end Ty

namespace Native

/-- Gives the cause as the cause of a failed conversion. -/
def checked (made : Except Violation Ty) : Except ConversionError Ty :=
  made.mapError .violation

/-- Fixed dimensions around a measure; without dimensions, the measure itself. -/
def shaped (dims : List Ty) (measure : Ty) : Except ConversionError Ty :=
  if dims.isEmpty then .ok measure else checked (Ty.makeShaped dims measure)

def encodingOfWidth? (width : UInt64) : Option Encoding :=
  if width = 1 then some .utf8
  else if width = 2 then some .utf16
  else if width = 4 then some .utf32
  else none

/-- The scalar type registered under the name of a native scalar. -/
def scalarType (r : Registry) (p : Primitive) : Except ConversionError Ty :=
  match r.lookup p.name with
  | .ok (.scalar s) => .ok (.scalar s)
  | .ok found => .error (.notScalar p found)
  | .error cause => .error (.registry cause)

mutual
def Descriptor.toType (r : Registry) : Descriptor → Except ConversionError Ty
  | .primitive p => scalarType r p
  | .bytes length => .ok (.string (some length) .ascii)
  | .unicode count width =>
    match encodingOfWidth? width with
    | some encoding => .ok (.string (some count) encoding)
    | none => .error (.codeUnitWidth count width)
  | .record layout => do checked (Ty.makeRecord (← fieldTypes r layout))

/-- The fields of a record, from left to right. Their offsets make no difference. -/
def fieldTypes (r : Registry) :
    List (UInt64 × Field) → Except ConversionError (List (String × Ty))
  | [] => .ok []
  | (_, ⟨name, element, extents⟩) :: ps => do
    let measure ← element.toType r
    let t ← shaped (extents.map .fixed) measure
    let rest ← fieldTypes r ps
    return (name, t) :: rest
end

/-- The type of a native array: its element is converted before its extents. -/
def ArrayForm.toType (r : Registry) (a : ArrayForm) : Except ConversionError Ty := do
  let measure ← a.element.toType r
  let dims ← a.shape.mapM fun extent => checked (Ty.makeFixed extent)
  shaped dims measure

end Native

end ShapeAlgebra
