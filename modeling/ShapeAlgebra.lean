import ShapeAlgebra.Document.Basic
import ShapeAlgebra.Document.Read
import ShapeAlgebra.Document.Write
import ShapeAlgebra.Encoding
import ShapeAlgebra.Kind
import ShapeAlgebra.Native.Conversion
import ShapeAlgebra.Native.Descriptor
import ShapeAlgebra.Native.Inference
import ShapeAlgebra.Native.Primitive
import ShapeAlgebra.Parameter.Basic
import ShapeAlgebra.Parameter.Build
import ShapeAlgebra.Registry
import ShapeAlgebra.Scalar
import ShapeAlgebra.Text.CharacterClass
import ShapeAlgebra.Text.Literal
import ShapeAlgebra.Ty.Basic
import ShapeAlgebra.Ty.Canonical
import ShapeAlgebra.Ty.Dimensions
import ShapeAlgebra.Ty.Equality
import ShapeAlgebra.Ty.Expression
import ShapeAlgebra.Ty.Hashing
import ShapeAlgebra.Ty.Make
import ShapeAlgebra.Ty.Traversal
import ShapeAlgebra.Ty.WellFormed
import ShapeAlgebra.Violation
import ShapeAlgebra.Word
import ShapeAlgebra.Proofs.Ty.Equality
import ShapeAlgebra.Proofs.Text.Lexeme
import ShapeAlgebra.Proofs.Canonical.Reader
import ShapeAlgebra.Proofs.Canonical.Unambiguous
import ShapeAlgebra.Proofs.Ty.Make
import ShapeAlgebra.Proofs.Native.Conversion
import ShapeAlgebra.Proofs.Native.DescriptorRoundTrip
import ShapeAlgebra.Proofs.Native.TypeRoundTrip
import ShapeAlgebra.Proofs.Parameter.Build
import ShapeAlgebra.Proofs.Document.Read
import ShapeAlgebra.Proofs.Ty.Dimensions
import ShapeAlgebra.Proofs.Session
import ShapeAlgebra.Proofs.Parameter.Reconstruction
import ShapeAlgebra.Proofs.Ty.NormalForm
import ShapeAlgebra.Proofs.Ty.Hashing
import ShapeAlgebra.Proofs.Ty.Rebuild
import ShapeAlgebra.Proofs.Document.RoundTrip
import ShapeAlgebra.Proofs.Registry.Runs
import ShapeAlgebra.Proofs.Native.Stability
import ShapeAlgebra.Proofs.Alike
import ShapeAlgebra.Proofs.Ty.Congruence
import ShapeAlgebra.Proofs.Parameter.Congruence
import ShapeAlgebra.Proofs.Native.Congruence
import ShapeAlgebra.Proofs.Native.Dimensions
import ShapeAlgebra.Proofs.Ty.Signature
import ShapeAlgebra.Proofs.Parameter.Normalization
import ShapeAlgebra.Proofs.Native.Acceptance
import ShapeAlgebra.Proofs.Native.Defects
import ShapeAlgebra.Proofs.Native.Tiling
import ShapeAlgebra.Proofs.Ty.Leaves
import ShapeAlgebra.Proofs.Ty.Concrete
import ShapeAlgebra.Proofs.Parameter.Arity
import ShapeAlgebra.Proofs.Text.Delimited
import ShapeAlgebra.Proofs.Ty.Expression
import ShapeAlgebra.Proofs.Ty.Refusal
import ShapeAlgebra.Proofs.Parameter.Literals
