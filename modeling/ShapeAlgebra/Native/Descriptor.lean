import ShapeAlgebra.Native.Primitive
import ShapeAlgebra.Ty.Hashing
import ShapeAlgebra.Word

/-!
# Native element descriptors

The element of a native array is a scalar, fixed-length text or a record that keeps the
offset of each of its fields. In a packed record the fields follow each other without gaps,
so their offsets are running sums of their sizes. Sizes stop at the largest machine word,
while sums of them that make up an offset wrap around.
-/
namespace ShapeAlgebra.Native

mutual
/-- The element of a native array. -/
inductive Descriptor where
  | primitive (primitive : Primitive)
  | bytes (length : UInt64)
  /-- Text of `count` code units of `width` bytes each. -/
  | unicode (count : UInt64) (width : UInt64)
  /-- A record of fields, each after its offset in bytes. -/
  | record (layout : List (UInt64 × Field))

/-- A field of a record; it holds an array if it has extents. -/
structure Field where
  name : String
  element : Descriptor
  extents : List UInt64
end

/-- A size, or the largest word if the size is beyond it. -/
def saturate (n : Nat) : Nat := min n Word.max

/-- The size of an array: the size of an element times each extent in turn. -/
def arraySize (size : Nat) (extents : List UInt64) : Nat :=
  extents.foldl (fun total extent => saturate (total * extent.toNat)) size

mutual
/-- Bytes per element. -/
def Descriptor.size : Descriptor → Nat
  | .primitive p => p.size
  | .bytes length => length.toNat
  | .unicode count width => saturate (count.toNat * width.toNat)
  | .record layout => saturate (layoutEnd layout)

def Field.size : Field → Nat
  | ⟨_, element, extents⟩ => arraySize element.size extents

/-- Where the last of the placed fields ends. -/
def layoutEnd : List (UInt64 × Field) → Nat
  | [] => 0
  | [(offset, f)] => offset.toNat + f.size
  | _ :: p :: ps => layoutEnd (p :: ps)
end

/-- The fields, each with its offset, when the first starts at `offset`. -/
def place (offset : UInt64) : List Field → List (UInt64 × Field)
  | [] => []
  | f :: fs => (offset, f) :: place (offset + .ofNat f.size) fs

namespace Descriptor

/-- A packed record of the fields. -/
def structured (fields : List Field) : Descriptor := record (place 0 fields)

def layout : Descriptor → List (UInt64 × Field)
  | record layout => layout
  | _ => []

def letter : Descriptor → Char
  | primitive p => p.letter
  | bytes _ => 'S'
  | unicode _ _ => 'U'
  | record _ => 'V'

def name : Descriptor → String
  | primitive p => p.name
  | bytes length => "S" ++ toString length.toNat
  | unicode count _ => "U" ++ toString count.toNat
  | record layout => "V" ++ toString (record layout).size

/-- The alignment in bytes; records and bytes need none. -/
def alignment : Descriptor → Nat
  | primitive p => p.alignment
  | unicode _ width => width.toNat
  | bytes _ => 1
  | record _ => 1

end Descriptor

mutual
def Descriptor.equal : Descriptor → Descriptor → Bool
  | .primitive p, .primitive p' => p == p'
  | .bytes n, .bytes n' => n == n'
  | .unicode n w, .unicode n' w' => n == n' && w == w'
  | .record ps, .record ps' => equalLayouts ps ps'
  | _, _ => false

def Field.equal : Field → Field → Bool
  | ⟨name, element, extents⟩, ⟨name', element', extents'⟩ =>
    name == name' && element.equal element' && extents == extents'

def equalLayouts : List (UInt64 × Field) → List (UInt64 × Field) → Bool
  | [], [] => true
  | (offset, f) :: ps, (offset', f') :: ps' =>
    f.equal f' && offset == offset' && equalLayouts ps ps'
  | _, _ => false
end

instance : BEq Descriptor := ⟨Descriptor.equal⟩

open HashItem in
mutual
def Descriptor.hashItems : Descriptor → List HashItem
  | .primitive p => [alternative 0, alternative (Primitive.all.idxOf p)]
  | .bytes length => [alternative 1, number length.toNat]
  | .unicode count width => [alternative 2, number count.toNat, number width.toNat]
  | .record layout => alternative 3 :: arity layout.length :: hashItemsLayout layout

def Field.hashItems : Field → List HashItem
  | ⟨name, element, extents⟩ =>
    text name :: element.hashItems ++
      arity extents.length :: extents.map fun e => number e.toNat

/-- The items of the placed fields one after the other, each before its offset. -/
def hashItemsLayout : List (UInt64 × Field) → List HashItem
  | [] => []
  | (offset, f) :: ps => f.hashItems ++ number offset.toNat :: hashItemsLayout ps
end

/-- The form of a native array: the extents of its dimensions and its element. -/
structure ArrayForm where
  shape : List Int64
  element : Descriptor

instance : BEq ArrayForm where
  beq a b := a.shape == b.shape && a.element == b.element

end ShapeAlgebra.Native
