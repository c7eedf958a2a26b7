import Mathlib.Data.List.Nodup
import ShapeAlgebra.Proofs.Ty.Dimensions
import ShapeAlgebra.Ty.Traversal

/-!
# Signature forms

Generalising a type numbers the variables it introduces from zero, whatever variables the
type has. Variables written by hand begin with a capital letter and are never met again. A
numbered variable of the type is, if its number is below the count of known extents; then
the extent is identified with it.

Apart from the name of the datashape and its known extents, nothing changes.
-/
namespace ShapeAlgebra.Ty

variable {t : Ty}

/-- What the signature form has in the places of the known extents, from left to right. -/
def introduced (t : Ty) : List Ty :=
  ((t.shape.zip t.signature.shape).filter fun p => p.1.isExtent).map Prod.snd

/-- No variable that stands for a known extent in the signature form occurs in the type. -/
def GeneralizesFreshly (t : Ty) : Prop :=
  ∀ symbol, typeVar symbol ∈ t.introduced → symbol ∉ t.freeVariables

theorem map_snd_filter_generalize (next : Nat) (ds : List Ty) :
    ((ds.zip (generalize next ds)).filter fun p => p.1.isExtent).map Prod.snd =
      (List.range' next (ds.countP isExtent)).map fun k => typeVar (Symbol.numbered k) := by
  induction ds generalizing next with
  | nil => rfl
  | cons d ds ih =>
    unfold generalize
    split_ifs with hextent
    · simp [hextent, ih, List.range'_succ]
    · simp [hextent, ih]

/-- The variables introduced are numbered from zero up, one for each known extent. -/
theorem introduced_eq (h : NodeValid t) :
    t.introduced =
      (List.range (t.shape.countP isExtent)).map fun k => typeVar (Symbol.numbered k) := by
  rw [introduced, shape_signature h, map_snd_filter_generalize, List.range_eq_range']

theorem typeVar_mem_introduced_iff (h : NodeValid t) {symbol : String} :
    typeVar symbol ∈ t.introduced ↔
      ∃ k < t.shape.countP isExtent, symbol = Symbol.numbered k := by
  rw [introduced_eq h, List.mem_map]
  constructor
  · rintro ⟨k, hk, heq⟩
    exact ⟨k, List.mem_range.mp hk, (typeVar.inj heq).symm⟩
  · rintro ⟨k, hk, rfl⟩
    exact ⟨k, List.mem_range.mpr hk, rfl⟩

theorem isWritten_numbered (n : Nat) : Symbol.isWritten (Symbol.numbered n) = false := by
  rw [Symbol.isWritten, toList_numbered]
  rfl

/-- A type with `n` known extents gets the variables numbered below `n` in their places.
These are fresh exactly if none of them occurs in the type already; so they are if all
variables of the type are written by hand. -/
theorem signature_fresh_iff (hw : WellFormed t) :
    t.introduced =
        (List.range (t.shape.countP isExtent)).map (fun k => typeVar (Symbol.numbered k)) ∧
      (t.GeneralizesFreshly ↔
        ∀ k < t.shape.countP isExtent, Symbol.numbered k ∉ t.freeVariables) ∧
      ((∀ symbol ∈ t.freeVariables, Symbol.isWritten symbol = true) → t.GeneralizesFreshly) := by
  refine ⟨introduced_eq hw.nodeValid, ?_, ?_⟩
  · constructor
    · intro hfresh k hk
      apply hfresh
      exact (typeVar_mem_introduced_iff hw.nodeValid).mpr ⟨k, hk, rfl⟩
    · intro hfree symbol hmem
      obtain ⟨k, hk, rfl⟩ := (typeVar_mem_introduced_iff hw.nodeValid).mp hmem
      exact hfree k hk
  · intro hwritten symbol hmem hfree
    obtain ⟨k, -, rfl⟩ := (typeVar_mem_introduced_iff hw.nodeValid).mp hmem
    have hcapital := hwritten _ hfree
    rw [isWritten_numbered] at hcapital
    cases hcapital

/-- A table of three rows with another dimension before them. -/
def tableAfter (dimension : Ty) : Ty :=
  datashape [dimension, fixed 3, scalar .int32] none

/-- The rows are told apart from a dimension written by hand, but not from a numbered one. -/
theorem signature_fresh_iff_tableAfter :
    (tableAfter (typeVar "N")).GeneralizesFreshly ∧
      WellFormed (tableAfter (typeVar "i0")) ∧
      (tableAfter (typeVar "i0")).signature =
        datashape [typeVar "i0", typeVar "i0", scalar .int32] none ∧
      ¬ (tableAfter (typeVar "i0")).GeneralizesFreshly := by
  have hwritten : WellFormed (tableAfter (typeVar "N")) := by decide
  have hnumbered : WellFormed (tableAfter (typeVar "i0")) := by decide
  obtain ⟨-, -, hfresh⟩ := signature_fresh_iff hwritten
  obtain ⟨-, hiff, -⟩ := signature_fresh_iff hnumbered
  refine ⟨hfresh (by decide), hnumbered, rfl, ?_⟩
  intro hnot
  exact absurd (hiff.mp hnot 0 (by decide)) (by decide)

/-! ## What generalising changes -/

theorem numbered_injective : Function.Injective Symbol.numbered := by
  intro m n h
  have hlist := congrArg String.toList h
  rw [toList_numbered, toList_numbered] at hlist
  have hdigits := congrArg (fun ds => Nat.ofDigitChars 10 ds 0) (List.cons.inj hlist).2
  simpa using hdigits

theorem introduced_nodup (h : NodeValid t) : t.introduced.Nodup := by
  rw [introduced_eq h]
  apply List.Nodup.map _ List.nodup_range
  intro m n heq
  exact numbered_injective (typeVar.inj heq)

/-- A known extent is numbered by how many there are before it. -/
theorem getElem?_generalize (next : Nat) (ds : List Ty) (j : Nat) :
    (generalize next ds)[j]? = ds[j]?.map fun d =>
      if d.isExtent then typeVar (Symbol.numbered (next + (ds.take j).countP isExtent))
      else d := by
  induction ds generalizing next j with
  | nil => rfl
  | cons e ds ih =>
    unfold generalize
    cases j with
    | zero => split_ifs with he <;> simp [he]
    | succ j =>
      split_ifs with he
      · have hcount : next + 1 + (ds.take j).countP isExtent =
            next + ((ds.take j).countP isExtent + 1) := by
          omega
        simp [ih, he, hcount]
      · simp [ih, he]

theorem generalize_eq_self {ds : List Ty} (h : ∀ d ∈ ds, d.isExtent = false) (next : Nat) :
    generalize next ds = ds := by
  induction ds with
  | nil => rfl
  | cons d ds ih =>
    obtain ⟨hd, hds⟩ := List.forall_mem_cons.mp h
    rw [generalize, if_neg (Bool.eq_false_iff.mp hd), ih hds]

theorem generalize_generalize (next next' : Nat) (ds : List Ty) :
    generalize next' (generalize next ds) = generalize next ds := by
  apply generalize_eq_self
  intro d hd
  rcases mem_generalize hd with ⟨k, rfl⟩ | ⟨-, hextent⟩
  · rfl
  · exact hextent

theorem signature_signature (h : WellFormed t) : t.signature.signature = t.signature := by
  cases t with
  | datashape params name =>
    have hsignature := h.signature.nodeValid
    rw [signature_datashape h.nodeValid] at hsignature ⊢
    rw [signature_datashape hsignature, shape_shaped, measure_shaped, generalize_generalize]
  | _ => rfl

/-- The datashape `s` is the datashape `t` without its name and with its known extents, and
nothing else, replaced: the `k`-th of them, counted from zero, by the variable `i{k}`. -/
structure Generalized (t s : Ty) : Prop where
  kind_eq : s.kind = .datashape
  name_eq : s.name? = none
  length_eq : s.shape.length = t.shape.length
  measure_eq : s.measure = t.measure
  extent : ∀ (j : Nat) (d : Ty), t.shape[j]? = some d → d.isExtent = true →
    s.shape[j]? = some (typeVar ("i" ++ toString ((t.shape.take j).countP isExtent)))
  other : ∀ (j : Nat) (d : Ty), t.shape[j]? = some d → d.isExtent = false →
    s.shape[j]? = some d

theorem generalized_signature (hk : t.kind = .datashape) (h : NodeValid t) :
    Generalized t t.signature := by
  obtain ⟨params, name, rfl⟩ := exists_eq_datashape hk
  have hsignature := signature_datashape h
  have hshape := shape_signature h
  refine ⟨congrArg kind hsignature, congrArg name? hsignature, ?_, measure_signature h, ?_, ?_⟩
  · rw [hshape, length_generalize]
  · intro j d hd hextent
    rw [hshape, getElem?_generalize, hd, Option.map_some, if_pos hextent, Nat.zero_add]
    rfl
  · intro j d hd hextent
    rw [hshape, getElem?_generalize, hd, Option.map_some, if_neg (Bool.eq_false_iff.mp hextent)]

/-- The signature form of a datashape can always be made, and differs from it in the name
and the known extents, for which it has numbered variables, all distinct. Any other type is
its own signature form, and so is a signature form. -/
theorem signature_generalizes (hw : WellFormed t) :
    (t.kind = .datashape →
      makeShaped (generalize 0 t.shape) t.measure = .ok t.signature ∧
        Generalized t t.signature ∧ t.introduced.Nodup) ∧
      (t.kind ≠ .datashape → t.signature = t) ∧
      t.signature.signature = t.signature := by
  refine ⟨?_, signature_eq_self, signature_signature hw⟩
  intro hk
  refine ⟨?_, generalized_signature hk hw.nodeValid, introduced_nodup hw.nodeValid⟩
  obtain ⟨params, name, rfl⟩ := exists_eq_datashape hk
  rw [makeShaped_generalize hw.nodeValid, signature_datashape hw.nodeValid]

/-- Pages of a known number of lines and columns, among dimensions that are not known. -/
def pagedText : Ty :=
  datashape [typeVar "N", fixed 60, var, intConst 80, scalar .int32] (some "pages")

/-- Both known extents are generalised, in turn; the pages lose their name. -/
theorem signature_generalizes_pagedText :
    WellFormed pagedText ∧
      Generalized pagedText pagedText.signature ∧
      pagedText.introduced.Nodup ∧
      pagedText.signature =
        datashape [typeVar "N", typeVar "i0", var, typeVar "i1", scalar .int32] none ∧
      pagedText.signature.signature = pagedText.signature ∧
      (scalar .int32).signature = scalar .int32 := by
  have hpages : WellFormed pagedText := by decide
  have hscalar : WellFormed (scalar .int32) := trivial
  obtain ⟨hdatashape, -, hagain⟩ := signature_generalizes hpages
  obtain ⟨-, hother, -⟩ := signature_generalizes hscalar
  obtain ⟨-, hgeneralized, hdistinct⟩ := hdatashape rfl
  exact ⟨hpages, hgeneralized, hdistinct, rfl, hagain, hother (by decide)⟩

end ShapeAlgebra.Ty
