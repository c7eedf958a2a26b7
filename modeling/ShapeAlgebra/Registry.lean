import ShapeAlgebra.Violation
import Std.Data.HashMap

/-!
# Registry of named types

A registry never changes an entry: a name once taken keeps its type. A call that is to enter
a type gives its answer together with the registry that it leaves behind, also if it fails.
The entries are in no order, so the names are sorted where they are listed.
-/
namespace ShapeAlgebra

structure Registry where
  entries : Std.HashMap String Ty

/-- Why a registry does not answer. -/
inductive RegistryError where
  | nameCollision (name : String)
  | notFound (name : String)
  /-- A datashape without a display name was to be registered under it. -/
  | anonymous (type : Ty)

def RegistryError.message : RegistryError → String
  | nameCollision name => "there is another type registered with name " ++ Text.shown name
  | notFound name => "no type registered with name " ++ Text.shown name
  | anonymous type => "cannot register an unnamed datashape: " ++ type.canonical

namespace Registry

def empty : Registry := ⟨∅⟩

def get? (r : Registry) (name : String) : Option Ty := r.entries.get? name

def contains (r : Registry) (name : String) : Bool := r.entries.contains name

def size (r : Registry) : Nat := r.entries.size

def isEmpty (r : Registry) : Bool := r.entries.isEmpty

/-- The registered names, in the order of their code points. -/
def names (r : Registry) : List String :=
  r.entries.keys.mergeSort fun a b => a ≤ b

def lookup (r : Registry) (name : String) : Except RegistryError Ty :=
  match r.get? name with
  | some t => .ok t
  | none => .error (.notFound name)

def insert (r : Registry) (name : String) (t : Ty) : Registry :=
  ⟨r.entries.insert name t⟩

/-- Enters a type under a name that is not taken. -/
def register (r : Registry) (name : String) (t : Ty) : Except RegistryError Unit × Registry :=
  if r.contains name then (.error (.nameCollision name), r)
  else (.ok (), r.insert name t)

/-- Enters a datashape under its display name. -/
def registerNamed (r : Registry) (t : Ty) : Except RegistryError Unit × Registry :=
  match t.name? with
  | some name => r.register name t
  | none => (.error (.anonymous t), r)

/-- The types that have a name from the start. -/
def builtinEntries : List (String × Ty) :=
  Scalar.builtin.map (fun s => (s.name, .scalar s)) ++
  Scalar.aliases.map (fun (name, s) => (name, .scalar s)) ++
  [("bytes", .bytes), ("string", .string none .standard), ("json", .json), ("date", .date),
   ("time", .time none), ("datetime", .datetime none), ("null", .null)]

def builtin : Registry := ⟨.ofList builtinEntries⟩

end Registry

end ShapeAlgebra
