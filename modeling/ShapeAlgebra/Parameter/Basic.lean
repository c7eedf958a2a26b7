import ShapeAlgebra.Ty.Equality
import ShapeAlgebra.Ty.Hashing

/-!
# Parameters

Every type can be taken apart into its kind and a list of parameters.
-/
namespace ShapeAlgebra

inductive Parameter where
  /-- An optional parameter that is not there. -/
  | omitted
  | int (value : Int)
  | str (value : String)
  | type (type : Ty)
  | types (types : List Ty)
  | fields (fields : List (String × Ty))
deriving BEq

/-- What sort of parameter it is, in messages. -/
def Parameter.sort : Parameter → String
  | omitted => "None"
  | int _ => "integer"
  | str _ => "string"
  | type _ => "type"
  | types _ => "type list"
  | fields _ => "field list"

open HashItem in
def Parameter.hashItems : Parameter → List HashItem
  | omitted => [alternative 0]
  | int value => [alternative 1, number value]
  | str value => [alternative 2, text value]
  | type t => alternative 3 :: t.hashItems
  | types ts => alternative 4 :: arity ts.length :: Ty.hashItemsAll ts
  | fields fs => alternative 5 :: ofEntries (Ty.hashItemsFields fs)

def Parameter.ofString? : Option String → Parameter
  | none => omitted
  | some s => str s

def Ty.parameters : Ty → List Parameter
  | time zone => [.ofString? zone]
  | datetime zone => [.ofString? zone]
  | units unit value => [.str unit, .type value]
  | string none encoding => [.omitted, .str encoding.name]
  | string (some length) encoding => [.int length.toNat, .str encoding.name]
  | scalar s => [.str s.name, .int s.size.toNat, .int s.alignment.toNat]
  | intConst value => [.int value.toInt]
  | strConst value => [.str value]
  | fixed extent => [.int extent.toNat]
  | typeVar symbol => [.str symbol]
  | ellipsis none => [.omitted]
  | ellipsis (some symbol) => [.type (typeVar symbol)]
  | datashape params _ => params.map .type
  | record fields => [.fields fields]
  | tuple members => [.types members]
  | function params => params.map .type
  | option value => [.type value]
  | implements symbol typeset => [.type (typeVar symbol), .str typeset]
  | null => []
  | date => []
  | bytes => []
  | json => []
  | var => []

end ShapeAlgebra
