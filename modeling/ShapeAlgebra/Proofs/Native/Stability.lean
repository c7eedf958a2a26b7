import ShapeAlgebra.Native.Inference
import ShapeAlgebra.Proofs.Native.Defects
import ShapeAlgebra.Proofs.Registry.Runs

/-!
# Native conversion under registration

A native array becomes a type by looking its scalars up by name. All these names belong to
built-in types, and no registration takes a name away. So the type of an array does not
depend on what has been registered, and the registry is never the reason for a failure.
-/
namespace ShapeAlgebra

/-- Whatever is registered, the built-in types keep their names. -/
theorem Registry.Seeded.run {r : Registry} (hr : r.Seeded) (calls : List Registry.Call) :
    (r.run calls).Seeded := by
  intro name t h
  rw [Registry.get?_run, hr name t h, Option.some_or]

/-- The registry is the reason for the failure: it has no type for the name of a scalar, or
one that is no scalar. -/
def ConversionError.blamesRegistry : ConversionError → Bool
  | registry _ => true
  | notScalar _ _ => true
  | _ => false

namespace Native

variable {r : Registry}

/-! ## Elements

A descriptor is converted by recursion on its layout, so the statement about descriptors
comes with one about the fields of a layout. -/

mutual
theorem Descriptor.toType_eq_builtin (hr : r.Seeded) :
    (d : Descriptor) → d.toType r = d.toType .builtin
  | .primitive p => by
    rw [Descriptor.toType, Descriptor.toType, scalarType_eq hr,
      scalarType_eq Registry.builtin_seeded]
  | .bytes length => rfl
  | .unicode count width => rfl
  | .record layout => by
    rw [Descriptor.toType, Descriptor.toType, fieldTypes_eq_builtin hr layout]

theorem fieldTypes_eq_builtin (hr : r.Seeded) :
    (layout : List (UInt64 × Field)) → fieldTypes r layout = fieldTypes .builtin layout
  | [] => rfl
  | (_, ⟨name, element, extents⟩) :: layout => by
    rw [fieldTypes, fieldTypes, element.toType_eq_builtin hr, fieldTypes_eq_builtin hr layout]
end

theorem Requirement.blamesRegistry_of_fault {q : Requirement} {e : ConversionError}
    (h : q.fault = some e) : e.blamesRegistry = false := by
  cases q <;> simp only [fault] at h <;> split_ifs at h <;> cases h <;> rfl

/-! ## Arrays -/

theorem ArrayForm.toType_eq_builtin (hr : r.Seeded) (a : ArrayForm) :
    a.toType r = a.toType .builtin := by
  rw [ArrayForm.toType, ArrayForm.toType, a.element.toType_eq_builtin hr]

/-- What an array can be refused for is in the array alone. -/
theorem ArrayForm.blamesRegistry_of_toType (hr : r.Seeded) {a : ArrayForm}
    {e : ConversionError} (h : a.toType r = .error e) : e.blamesRegistry = false := by
  rw [(a.reports_toType hr).eq_error_iff] at h
  obtain ⟨q, -, hfault⟩ := List.exists_of_findSome?_eq_some h
  exact Requirement.blamesRegistry_of_fault hfault

/-- Whatever calls the registry of the built-in types has seen, an array has the type or the
error it had before, also as a value. The error is never that a scalar is not registered, or
is registered as something else. -/
theorem toType_run_builtin (calls : List Registry.Call) (a : ArrayForm) :
    a.toType (Registry.builtin.run calls) = a.toType .builtin ∧
      Value.inferType (Registry.builtin.run calls) ⟨none, .array a⟩ =
        Value.inferType .builtin ⟨none, .array a⟩ ∧
      (∀ cause, a.toType (Registry.builtin.run calls) ≠ .error (.registry cause)) ∧
      ∀ p found, a.toType (Registry.builtin.run calls) ≠ .error (.notScalar p found) := by
  have hr := Registry.builtin_seeded.run calls
  refine ⟨a.toType_eq_builtin hr, a.toType_eq_builtin hr, ?_, ?_⟩
  · intro cause h
    cases ArrayForm.blamesRegistry_of_toType hr h
  · intro p found h
    cases ArrayForm.blamesRegistry_of_toType hr h

end Native

end ShapeAlgebra
