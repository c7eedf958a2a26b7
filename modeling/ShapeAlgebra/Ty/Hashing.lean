import ShapeAlgebra.Ty.Equality

/-!
# What a hash of a type reads

A hash function is fed a sequence of items. The sequence lists the fields of a record by
name and leaves out what equality ignores, so equal types are read alike.
-/
namespace ShapeAlgebra

/-- One item fed to a hash function. -/
inductive HashItem where
  /-- Which of its alternatives a value is, counted from 0. -/
  | alternative (index : Nat)
  /-- How many members follow. -/
  | arity (count : Nat)
  | number (value : Int)
  | text (value : String)
deriving DecidableEq, Repr

namespace HashItem

/-- The items of an optional value: whether it is there, then its own items. -/
def ofOption (items : α → List HashItem) : Option α → List HashItem
  | none => [alternative 0]
  | some a => alternative 1 :: items a

/-- The items of named entries: their number, then each name with its items. -/
def ofEntries (entries : List (String × List HashItem)) : List HashItem :=
  arity entries.length :: entries.flatMap fun (name, items) => text name :: items

end HashItem

def Kind.index (k : Kind) : Nat := all.idxOf k

namespace Ty

open HashItem

mutual
/-- The items a hash of a type reads, the kind of the type first. -/
def hashItems : Ty → List HashItem
  | time zone => alternative Kind.time.index :: ofOption (fun z => [text z]) zone
  | datetime zone => alternative Kind.datetime.index :: ofOption (fun z => [text z]) zone
  | units unit value => alternative Kind.units.index :: text unit :: hashItems value
  | string length encoding =>
    alternative Kind.string.index :: ofOption (fun n => [number n.toNat]) length ++
      [alternative (Encoding.all.idxOf encoding)]
  | scalar s => [alternative Kind.scalar.index, text s.name]
  | intConst value => [alternative Kind.intConst.index, number value.toInt]
  | strConst value => [alternative Kind.strConst.index, text value]
  | fixed extent => [alternative Kind.fixed.index, number extent.toNat]
  | ellipsis symbol => alternative Kind.ellipsis.index :: ofOption (fun s => [text s]) symbol
  | typeVar symbol => [alternative Kind.typeVar.index, text symbol]
  | datashape params _ =>
    alternative Kind.datashape.index :: arity params.length :: hashItemsAll params
  | record fields =>
    alternative Kind.record.index ::
      ofEntries ((hashItemsFields fields).mergeSort fun f g => f.1 ≤ g.1)
  | tuple members => alternative Kind.tuple.index :: arity members.length :: hashItemsAll members
  | function params =>
    alternative Kind.function.index :: arity params.length :: hashItemsAll params
  | option value => alternative Kind.option.index :: hashItems value
  | implements symbol typeset =>
    [alternative Kind.implements.index, text symbol, text typeset]
  | null => [alternative Kind.null.index]
  | date => [alternative Kind.date.index]
  | bytes => [alternative Kind.bytes.index]
  | json => [alternative Kind.json.index]
  | var => [alternative Kind.var.index]

def hashItemsAll : List Ty → List HashItem
  | [] => []
  | t :: ts => hashItems t ++ hashItemsAll ts

/-- The items of each field, under its name. -/
def hashItemsFields : List (String × Ty) → List (String × List HashItem)
  | [] => []
  | (name, t) :: fs => (name, hashItems t) :: hashItemsFields fs
end

end Ty

end ShapeAlgebra
