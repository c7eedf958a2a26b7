/-!
# Scalars

Named machine scalars with their size and alignment in bytes, the built-in ones, and the
other names the built-in ones go by.
-/
namespace ShapeAlgebra

/-- A machine scalar. Only its name identifies it. -/
structure Scalar where
  name : String
  size : UInt64
  alignment : UInt64
deriving DecidableEq, Repr

namespace Scalar

def bool : Scalar := ⟨"bool", 1, 1⟩
def char : Scalar := ⟨"char", 1, 1⟩
def int8 : Scalar := ⟨"int8", 1, 1⟩
def int16 : Scalar := ⟨"int16", 2, 2⟩
def int32 : Scalar := ⟨"int32", 4, 4⟩
def int64 : Scalar := ⟨"int64", 8, 8⟩
def uint8 : Scalar := ⟨"uint8", 1, 1⟩
def uint16 : Scalar := ⟨"uint16", 2, 2⟩
def uint32 : Scalar := ⟨"uint32", 4, 4⟩
def uint64 : Scalar := ⟨"uint64", 8, 8⟩
def float16 : Scalar := ⟨"float16", 2, 2⟩
def float32 : Scalar := ⟨"float32", 4, 4⟩
def float64 : Scalar := ⟨"float64", 8, 8⟩
def complexFloat32 : Scalar := ⟨"complex[float32]", 8, 4⟩
def complexFloat64 : Scalar := ⟨"complex[float64]", 16, 8⟩
def void : Scalar := ⟨"void", 0, 1⟩
def object : Scalar := ⟨"object", 8, 8⟩

def builtin : List Scalar :=
  [bool, char, int8, int16, int32, int64, uint8, uint16, uint32, uint64,
   float16, float32, float64, complexFloat32, complexFloat64, void, object]

/-- Further names of built-in scalars. -/
def aliases : List (String × Scalar) :=
  [("complex64", complexFloat32), ("complex128", complexFloat64),
   ("intptr", int64), ("uintptr", uint64), ("float", float32), ("double", float64)]

end Scalar

end ShapeAlgebra
