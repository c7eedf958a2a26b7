import ShapeAlgebra.Ty.Basic

/-!
# Equality of types

Two types are equal when they classify the same data. The order of the fields of a
record, the display name of a datashape and the size and alignment recorded for a scalar
make no difference.
-/
namespace ShapeAlgebra.Ty

mutual
def equal : Ty → Ty → Bool
  | null, null => true
  | date, date => true
  | time z, time z' => z == z'
  | datetime z, datetime z' => z == z'
  | units u v, units u' v' => u == u' && equal v v'
  | bytes, bytes => true
  | string n e, string n' e' => n == n' && e == e'
  | scalar s, scalar s' => s.name == s'.name
  | json, json => true
  | intConst n, intConst n' => n == n'
  | strConst s, strConst s' => s == s'
  | fixed n, fixed n' => n == n'
  | var, var => true
  | ellipsis s, ellipsis s' => s == s'
  | typeVar s, typeVar s' => s == s'
  | datashape ps _, datashape ps' _ => equalAll ps ps'
  | record fs, record fs' => fs.length == fs'.length && equalFields fs fs'
  | tuple ts, tuple ts' => equalAll ts ts'
  | function ps, function ps' => equalAll ps ps'
  | option v, option v' => equal v v'
  | implements s c, implements s' c' => s == s' && c == c'
  | _, _ => false
termination_by t u => sizeOf t + sizeOf u

/-- Lists of the same length, equal member by member. -/
def equalAll : List Ty → List Ty → Bool
  | [], [] => true
  | t :: ts, u :: us => equal t u && equalAll ts us
  | _, _ => false
termination_by ts us => sizeOf ts + sizeOf us

/-- Every field of the first list has a namesake in the second, of a type equal to its
own. The type found is the one that is asked, so the sides change with every record. -/
def equalFields : List (String × Ty) → List (String × Ty) → Bool
  | [], _ => true
  | (name, t) :: fs, gs => equalNamesake name t gs && equalFields fs gs
termination_by fs gs => sizeOf fs + sizeOf gs

def equalNamesake (name : String) (t : Ty) : List (String × Ty) → Bool
  | [] => false
  | (name', u) :: gs => if name' = name then equal u t else equalNamesake name t gs
termination_by gs => sizeOf t + sizeOf gs
end

instance : BEq Ty := ⟨equal⟩

/-- Equality with an integer, for fixed dimensions and integer constants. -/
def equalInt : Ty → Int64 → Bool
  | fixed extent, n => (extent.toNat : Int) == n.toInt
  | intConst value, n => value == n
  | _, _ => false

/-- Equality with a string, for string constants. -/
def equalString : Ty → String → Bool
  | strConst value, s => value == s
  | _, _ => false

end ShapeAlgebra.Ty
