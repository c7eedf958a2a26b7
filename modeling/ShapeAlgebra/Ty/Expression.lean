import ShapeAlgebra.Parameter.Basic
import ShapeAlgebra.Text.Literal
import ShapeAlgebra.Ty.Canonical

/-!
# Construct expressions

The text by which messages show a type: a call that would build it, with canonical forms
as escaped string arguments.
-/
namespace ShapeAlgebra

def Text.call (name : String) (args : List String) : String :=
  name ++ "(" ++ String.intercalate ", " args ++ ")"

def Text.bracketed (items : List String) : String :=
  "[" ++ String.intercalate ", " items ++ "]"

def Text.stringArgument : Option String → String
  | none => "None"
  | some s => quote s

namespace Ty

mutual
def expression : Ty → String
  | scalar s => "ctype(\"" ++ Text.escape (canonical (scalar s)) ++ "\")"
  | string length encoding =>
    "ctype(\"" ++ Text.escape (canonical (string length encoding)) ++ "\")"
  | datashape params name =>
    "dshape(\"" ++ Text.escape (canonical (datashape params name)) ++ "\")"
  | record fields => "dshape(\"" ++ Text.escape (canonical (record fields)) ++ "\")"
  | tuple members => "dshape(\"" ++ Text.escape (canonical (tuple members)) ++ "\")"
  | ellipsis symbol => "Ellipsis(\"" ++ canonical (ellipsis symbol) ++ "\")"
  | typeVar symbol => "TypeVar(" ++ symbol ++ ")"
  | option value => canonical (option value)
  | implements symbol typeset => canonical (implements symbol typeset)
  | time zone => Text.call Kind.time.name [Text.stringArgument zone]
  | datetime zone => Text.call Kind.datetime.name [Text.stringArgument zone]
  | units unit value => Text.call Kind.units.name [Text.quote unit, expression value]
  | intConst value => Text.call Kind.intConst.name [toString value.toInt]
  | strConst value => Text.call Kind.strConst.name [Text.quote value]
  | fixed extent => Text.call Kind.fixed.name [toString extent.toNat]
  | function params => Text.call Kind.function.name (expressions params)
  | null => Text.call Kind.null.name []
  | date => Text.call Kind.date.name []
  | bytes => Text.call Kind.bytes.name []
  | json => Text.call Kind.json.name []
  | var => Text.call Kind.var.name []

def expressions : List Ty → List String
  | [] => []
  | t :: ts => expression t :: expressions ts
end

end Ty

def Parameter.expression : Parameter → String
  | omitted => "None"
  | int value => toString value
  | str value => Text.quote value
  | type t => t.expression
  | types ts => Text.bracketed (ts.map Ty.expression)
  | fields fs =>
    Text.bracketed (fs.map fun f => "(" ++ Text.quote f.1 ++ ", " ++ f.2.expression ++ ")")

end ShapeAlgebra
