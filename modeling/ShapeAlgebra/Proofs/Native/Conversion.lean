import ShapeAlgebra.Native.Conversion
import ShapeAlgebra.Proofs.Registry
import ShapeAlgebra.Proofs.Ty.Make

/-!
# Steps of the conversions

What the conversions to and from native arrays do with one scalar, one extent and one field.
The two directions are compared here step by step.
-/
namespace ShapeAlgebra

namespace Native

variable {r : Registry}

/-! ## Scalars -/

/-- The built-in scalar that goes by the name of a native scalar. -/
def Primitive.toScalar : Primitive → Scalar
  | bool => .bool
  | int8 => .int8
  | int16 => .int16
  | int32 => .int32
  | int64 => .int64
  | uint8 => .uint8
  | uint16 => .uint16
  | uint32 => .uint32
  | uint64 => .uint64
  | float16 => .float16
  | float32 => .float32
  | float64 => .float64
  | complex64 => .complexFloat32
  | complex128 => .complexFloat64
  | object => .object

@[simp] theorem ofScalar?_toScalar (p : Primitive) :
    Primitive.ofScalar? p.toScalar = some p := by
  cases p <;> decide

theorem toScalar_mem_builtin_or_aliases (p : Primitive) :
    p.toScalar ∈ Scalar.builtin ∧ p.toScalar.name = p.name ∨
      (p.name, p.toScalar) ∈ Scalar.aliases := by
  cases p <;> decide

theorem mem_builtinEntries (p : Primitive) :
    (p.name, .scalar p.toScalar) ∈ Registry.builtinEntries := by
  rw [Registry.builtinEntries, List.mem_append, List.mem_append, List.mem_map, List.mem_map]
  rcases toScalar_mem_builtin_or_aliases p with ⟨hmem, hname⟩ | hmem
  · exact .inl (.inl ⟨p.toScalar, hmem, by rw [hname]⟩)
  · exact .inl (.inr ⟨_, hmem, rfl⟩)

theorem scalarType_eq (hr : r.Seeded) (p : Primitive) :
    scalarType r p = .ok (.scalar p.toScalar) := by
  rw [scalarType, Registry.lookup, hr _ _ (Registry.builtin_get? (mem_builtinEntries p))]

/-! ## Measures and dimensions -/

theorem checked_eq_ok_iff {x : Except Violation Ty} {t : Ty} :
    checked x = .ok t ↔ x = .ok t :=
  mapError_eq_ok_iff

theorem shaped_eq_ok_iff {dims : List Ty} {m t : Ty} (h : dims ≠ []) :
    shaped dims m = .ok t ↔ m.fits .measure = true ∧ (∀ d ∈ dims, d.fits .dimension = true) ∧
      t = .datashape (dims ++ [m]) none := by
  rw [shaped, if_neg (by simpa using h), checked_eq_ok_iff, Ty.makeShaped_eq_ok_iff]
  simp only [ne_eq, h, not_false_eq_true, true_and]

theorem shape_measure_of_shaped {dims : List Ty} {m t : Ty} (hm : m.position? = some .measure)
    (h : shaped dims m = .ok t) : t.shape = dims ∧ t.measure = m := by
  unfold shaped at h
  split_ifs at h with hempty
  · obtain rfl := Except.ok.inj h
    have hk := Ty.kind_ne_datashape_of_fits (Ty.fits_of_position? hm)
    rw [List.isEmpty_iff.mp hempty]
    exact ⟨Ty.shape_eq_nil hk, Ty.measure_eq_self hk⟩
  · obtain ⟨-, -, -, rfl⟩ := Ty.makeShaped_eq_ok_iff.mp (checked_eq_ok_iff.mp h)
    exact ⟨Ty.shape_shaped dims m none, Ty.measure_shaped dims m none⟩

theorem position?_of_toType {d : Descriptor} {m : Ty} (h : d.toType r = .ok m) :
    m.position? = some .measure := by
  cases d with
  | primitive p =>
    rw [Descriptor.toType, scalarType] at h
    split at h <;> cases h
    rfl
  | bytes length =>
    cases h
    rfl
  | unicode count width =>
    rw [Descriptor.toType] at h
    split at h <;> cases h
    rfl
  | record layout =>
    rw [Descriptor.toType] at h
    obtain ⟨fields, -, h⟩ := bind_eq_ok_iff.mp h
    obtain ⟨-, rfl⟩ := Ty.makeRecord_eq_ok_iff.mp (checked_eq_ok_iff.mp h)
    rfl

end Native

/-! ## Fields -/

namespace Native

variable {r : Registry}

theorem sizeOf_element_lt {d : Descriptor} {p : UInt64 × Field} (h : p ∈ d.layout) :
    sizeOf p.2.element < sizeOf d := by
  cases d with
  | record layout =>
    obtain ⟨offset, name, element, extents⟩ := p
    have hlt := List.sizeOf_lt_of_mem (show _ ∈ layout from h)
    simp only [Prod.mk.sizeOf_spec, Field.mk.sizeOf_spec] at hlt
    simp only [Descriptor.record.sizeOf_spec]
    omega
  | _ => cases h

/-- Induction: what passes from the elements of the fields to a descriptor holds of every
descriptor. -/
@[elab_as_elim]
theorem Descriptor.induction_on_elements {motive : Descriptor → Prop} (d : Descriptor)
    (step : ∀ d, (∀ p ∈ d.layout, motive p.2.element) → motive d) : motive d :=
  step d fun p _ => induction_on_elements p.2.element step
termination_by sizeOf d
decreasing_by exact sizeOf_element_lt ‹_›

def fieldType (r : Registry) (f : Field) : Except ConversionError (String × Ty) := do
  let measure ← f.element.toType r
  let t ← shaped (f.extents.map .fixed) measure
  return (f.name, t)

theorem fieldTypes_eq_mapM (layout : List (UInt64 × Field)) :
    fieldTypes r layout = layout.mapM fun p => fieldType r p.2 := by
  induction layout with
  | nil => rfl
  | cons p layout ih =>
    obtain ⟨offset, name, element, extents⟩ := p
    rw [fieldTypes, ih, List.mapM_cons, fieldType]
    simp only [bind_assoc, pure_bind]

theorem fieldType_eq_ok_iff {f : Field} {g : String × Ty} :
    fieldType r f = .ok g ↔ ∃ m, f.element.toType r = .ok m ∧ g.1 = f.name ∧
      shaped (f.extents.map .fixed) m = .ok g.2 := by
  obtain ⟨name, t⟩ := g
  constructor
  · intro h
    obtain ⟨m, hm, h⟩ := bind_eq_ok_iff.mp h
    obtain ⟨t, ht, h⟩ := bind_eq_ok_iff.mp h
    obtain ⟨rfl, rfl⟩ := Prod.mk.inj (Except.ok.inj h)
    exact ⟨m, hm, rfl, ht⟩
  · rintro ⟨m, hm, rfl, ht⟩
    apply bind_eq_ok_iff.mpr ⟨m, hm, _⟩
    exact bind_eq_ok_iff.mpr ⟨t, ht, rfl⟩

end Native

namespace Ty

theorem nativeLast_eq (holder : Ty) (h : holder.nativeElement = .error (.incompatibleMeasure holder))
    (params : List Ty) : nativeLast holder params = (params.getLastD holder).nativeElement := by
  induction params with
  | nil => exact h.symm
  | cons t ts ih =>
    cases ts with
    | nil => rfl
    | cons t' ts => exact ih

/-- A field is converted like a type on its own: its dimensions before its measure. -/
theorem nativeFields_cons (name : String) (t : Ty) (fs : List (String × Ty)) :
    nativeFields ((name, t) :: fs) = do
      let extents ← t.shape.mapM (fieldExtent t)
      let element ← t.measure.nativeElement
      let rest ← nativeFields fs
      return ⟨name, element, extents⟩ :: rest := by
  cases t with
  | datashape params label =>
    rw [nativeFields, measure, nativeLast_eq]
    rfl
  | _ => rfl

end Ty

/-! ## Well-formedness -/

namespace Native

open Ty

variable {r : Registry}

theorem wellFormed_of_shaped {dims : List Ty} {m t : Ty} (hdims : ∀ d ∈ dims, WellFormed d)
    (hm : WellFormed m) (h : shaped dims m = .ok t) : WellFormed t := by
  unfold shaped at h
  split_ifs at h
  · exact Except.ok.inj h ▸ hm
  · exact wellFormed_of_makeShaped hdims hm (checked_eq_ok_iff.mp h)

theorem Descriptor.wellFormed_of_toType {d : Descriptor} {m : Ty} (h : d.toType r = .ok m) :
    WellFormed m := by
  induction d using Descriptor.induction_on_elements generalizing m with
  | step d ih =>
    cases d with
    | primitive p =>
      rw [Descriptor.toType, scalarType] at h
      split at h <;> cases h
      exact trivial
    | bytes length => exact Except.ok.inj h ▸ trivial
    | unicode count width =>
      rw [Descriptor.toType] at h
      split at h <;> cases h
      exact trivial
    | record layout =>
      rw [Descriptor.toType, fieldTypes_eq_mapM] at h
      obtain ⟨fields, hfields, h⟩ := bind_eq_ok_iff.mp h
      refine wellFormed_of_makeRecord (fun f hf => ?_) (checked_eq_ok_iff.mp h)
      obtain ⟨p, hp, hfield⟩ := exists_of_mem_ok hfields hf
      obtain ⟨m, hm, -, ht⟩ := fieldType_eq_ok_iff.mp hfield
      have hdims : ∀ d ∈ p.2.extents.map fixed, WellFormed d :=
        List.forall_mem_map.mpr fun _ _ => trivial
      exact wellFormed_of_shaped hdims (ih p hp hm) ht

theorem ArrayForm.wellFormed_of_toType {a : ArrayForm} {t : Ty} (h : a.toType r = .ok t) :
    WellFormed t := by
  obtain ⟨m, hm, h⟩ := bind_eq_ok_iff.mp h
  obtain ⟨dims, hdims, h⟩ := bind_eq_ok_iff.mp h
  refine wellFormed_of_shaped (fun d hd => ?_) (Descriptor.wellFormed_of_toType hm) h
  obtain ⟨extent, -, hmade⟩ := exists_of_mem_ok hdims hd
  obtain ⟨n, -, rfl⟩ := Ty.makeFixed_eq_ok_iff.mp (checked_eq_ok_iff.mp hmade)
  exact trivial

end Native

end ShapeAlgebra
