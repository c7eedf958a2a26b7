import ShapeAlgebra.Document.Basic
import ShapeAlgebra.Ty.Basic

/-!
# Storing types

A type is stored under the label of its kind; one without parts is the label alone.
-/
namespace ShapeAlgebra.Ty

open Document

def labelled (kind : Kind) (payload : Document) : Document :=
  object [(kind.label, payload)]

def writeLength : Option UInt64 → Document
  | none => .null
  | some n => int n.toNat

mutual
def write : Ty → Document
  | null => str Kind.null.label
  | date => str Kind.date.label
  | bytes => str Kind.bytes.label
  | json => str Kind.json.label
  | var => str Kind.var.label
  | time zone => labelled .time (object [("tz", ofString? zone)])
  | datetime zone => labelled .datetime (object [("tz", ofString? zone)])
  | units unit value => labelled .units (object [("unit", str unit), ("tp", write value)])
  | string length encoding =>
    labelled .string (object [("fixlen", writeLength length), ("encoding", str encoding.label)])
  | scalar s =>
    labelled .scalar (object [("name", str s.name), ("itemsize", int s.size.toNat),
      ("alignment", int s.alignment.toNat)])
  | intConst value => labelled .intConst (int value.toInt)
  | strConst value => labelled .strConst (str value)
  | fixed extent => labelled .fixed (int extent.toNat)
  | ellipsis symbol => labelled .ellipsis (object [("typevar", ofString? symbol)])
  | typeVar symbol => labelled .typeVar (str symbol)
  | datashape params name =>
    labelled .datashape (object [("params", list (writeAll params)), ("name", ofString? name)])
  | record fields => labelled .record (object [("fields", list (writeFields fields))])
  | tuple members => labelled .tuple (object [("dshapes", list (writeAll members))])
  | function params => labelled .function (object [("params", list (writeAll params))])
  | option value => labelled .option (object [("ty", write value)])
  | implements symbol typeset =>
    labelled .implements (object [("typevar", str symbol), ("typeset", str typeset)])

def writeAll : List Ty → List Document
  | [] => []
  | t :: ts => write t :: writeAll ts

/-- Each field as its name and the document of its type. -/
def writeFields : List (String × Ty) → List Document
  | [] => []
  | (name, t) :: fs => list [str name, write t] :: writeFields fs
end

end ShapeAlgebra.Ty
