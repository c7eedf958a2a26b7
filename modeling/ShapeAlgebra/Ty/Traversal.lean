import ShapeAlgebra.Ty.Basic

/-!
# Traversal

A visitor passes a state through a type, from left to right. It is told of type variables
and of dimensions that vary; where it has a handler for a larger node, the handler takes
the place of the visit of the parts. The value type of units is not visited.
-/
namespace ShapeAlgebra

/-- What to do at each node met on the way. -/
structure Visitor (σ : Type) where
  typeVar : String → σ → σ
  var : σ → σ
  ellipsis : Option (Option String → σ → σ) := none
  datashape : Option (List Ty → σ → σ) := none
  record : Option (List (String × Ty) → σ → σ) := none
  tuple : Option (List Ty → σ → σ) := none
  function : Option (List Ty → σ → σ) := none
  option : Option (Ty → σ → σ) := none
  implements : Option (String → String → σ → σ) := none

namespace Visitor

variable {σ : Type}

mutual
def visit (v : Visitor σ) : Ty → σ → σ
  | .typeVar symbol, s => v.typeVar symbol s
  | .var, s => v.var s
  | .ellipsis symbol, s =>
    match v.ellipsis, symbol with
    | some handle, _ => handle symbol s
    | none, some symbol => v.typeVar symbol s
    | none, none => s
  | .datashape params _, s =>
    match v.datashape with
    | some handle => handle params s
    | none => visitAll v params s
  | .record fields, s =>
    match v.record with
    | some handle => handle fields s
    | none => visitFields v fields s
  | .tuple members, s =>
    match v.tuple with
    | some handle => handle members s
    | none => visitAll v members s
  | .function params, s =>
    match v.function with
    | some handle => handle params s
    | none => visitAll v params s
  | .option value, s =>
    match v.option with
    | some handle => handle value s
    | none => visit v value s
  | .implements symbol typeset, s =>
    match v.implements with
    | some handle => handle symbol typeset s
    | none => v.typeVar symbol s
  | _, s => s

def visitAll (v : Visitor σ) : List Ty → σ → σ
  | [], s => s
  | t :: ts, s => visitAll v ts (visit v t s)

def visitFields (v : Visitor σ) : List (String × Ty) → σ → σ
  | [], s => s
  | (_, t) :: fs, s => visitFields v fs (visit v t s)
end

end Visitor

namespace Ty

/-- The symbols of the type variables of a type, from left to right, with repetitions. -/
def freeVariables (t : Ty) : List String :=
  Visitor.visit
    { typeVar := fun symbol found => found ++ [symbol]
      var := id } t []

/-- No extent and no type is left open. -/
def isConcrete (t : Ty) : Bool :=
  Visitor.visit
    { typeVar := fun _ _ => false
      var := fun _ => false
      ellipsis := some fun _ _ => false } t true

end Ty

end ShapeAlgebra
