import ShapeAlgebra.Scalar

/-!
# Primitive native elements

The scalars an array library knows by itself.
-/
namespace ShapeAlgebra.Native

/-- A scalar element of a native array. -/
inductive Primitive where
  | bool
  | int8
  | int16
  | int32
  | int64
  | uint8
  | uint16
  | uint32
  | uint64
  | float16
  | float32
  | float64
  | complex64
  | complex128
  | object
deriving DecidableEq, Repr

namespace Primitive

def all : List Primitive :=
  [bool, int8, int16, int32, int64, uint8, uint16, uint32, uint64,
   float16, float32, float64, complex64, complex128, object]

def name : Primitive → String
  | bool => "bool"
  | int8 => "int8"
  | int16 => "int16"
  | int32 => "int32"
  | int64 => "int64"
  | uint8 => "uint8"
  | uint16 => "uint16"
  | uint32 => "uint32"
  | uint64 => "uint64"
  | float16 => "float16"
  | float32 => "float32"
  | float64 => "float64"
  | complex64 => "complex64"
  | complex128 => "complex128"
  | object => "object"

def ofName? (name : String) : Option Primitive :=
  all.find? fun p => p.name == name

/-- One letter for the family of the scalar. -/
def letter : Primitive → Char
  | bool => 'b'
  | int8 | int16 | int32 | int64 => 'i'
  | uint8 | uint16 | uint32 | uint64 => 'u'
  | float16 | float32 | float64 => 'f'
  | complex64 | complex128 => 'c'
  | object => 'O'

def size : Primitive → Nat
  | bool | int8 | uint8 => 1
  | int16 | uint16 | float16 => 2
  | int32 | uint32 | float32 => 4
  | int64 | uint64 | float64 | complex64 | object => 8
  | complex128 => 16

/-- The alignment in bytes; a complex number is aligned like its parts. -/
def alignment : Primitive → Nat
  | complex64 => 4
  | complex128 => 8
  | p => p.size

/-- The native scalar a scalar type stands for. Complex types are named after their parts. -/
def ofScalar? (s : Scalar) : Option Primitive :=
  if s.name = Scalar.complexFloat32.name then some complex64
  else if s.name = Scalar.complexFloat64.name then some complex128
  else ofName? s.name

@[simp] theorem ofName?_name (p : Primitive) : ofName? p.name = some p := by
  cases p <;> decide

end Primitive

end ShapeAlgebra.Native
