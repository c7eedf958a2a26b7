import ShapeAlgebra.Proofs.Ty.Equality
import ShapeAlgebra.Proofs.Ty.Make
import ShapeAlgebra.Ty.Dimensions

/-!
# Dropping and generalising dimensions

Both keep types well formed: dropping leaves a suffix of the dimensions, and generalising
puts type variables in the place of dimensions. So neither fails on a well-formed type, as
long as there are dimensions to drop. Dropping can be done in steps; they come to the same
type, since only a step that drops nothing keeps the name.
-/
namespace ShapeAlgebra.Ty

variable {t : Ty}

theorem toList_numbered (n : Nat) : (Symbol.numbered n).toList = 'i' :: Nat.toDigits 10 n := by
  rw [Symbol.numbered, String.toList_append, Nat.toString_eq_repr, Nat.toList_repr]
  rfl

theorem isNumbered_numbered (n : Nat) : Symbol.isNumbered (Symbol.numbered n) = true := by
  rw [Symbol.isNumbered, toList_numbered]
  simp only [Bool.and_eq_true, Bool.not_eq_true', List.isEmpty_eq_false_iff, List.all_eq_true]
  exact ⟨Nat.toDigits_ne_nil, fun c hc => Nat.isDigit_of_mem_toDigits (by decide) (by decide) hc⟩

theorem WellFormed.of_mem_shape {d : Ty} (h : WellFormed t) (hd : d ∈ t.shape) : WellFormed d := by
  cases t with
  | datashape params name => exact h.of_mem_parts (List.dropLast_subset params hd)
  | _ => cases hd

theorem WellFormed.measure (h : WellFormed t) : WellFormed t.measure := by
  cases t with
  | datashape params name =>
    exact h.of_mem_parts (measure_mem_params (params_ne_nil h.nodeValid) name)
  | _ => exact h

theorem wellFormed_of_subarray (ht : WellFormed t) {leading : Nat} {u : Ty}
    (h : t.subarray leading = .ok u) : WellFormed u := by
  simp only [subarray] at h
  split_ifs at h
  · exact Except.ok.inj h ▸ ht
  · exact Except.ok.inj h ▸ ht.measure
  · exact wellFormed_of_makeShaped (fun d hd => ht.of_mem_shape (List.mem_of_mem_drop hd))
      ht.measure h

/-- What generalising leaves is a numbered variable, or a dimension that was there and has no
known extent. -/
theorem mem_generalize {next : Nat} {ds : List Ty} {d : Ty} (hd : d ∈ generalize next ds) :
    (∃ k, d = typeVar (Symbol.numbered k)) ∨ d ∈ ds ∧ d.isExtent = false := by
  induction ds generalizing next with
  | nil => cases hd
  | cons e ds ih =>
    unfold generalize at hd
    split_ifs at hd with hextent
    · rcases List.mem_cons.mp hd with rfl | hd
      · exact .inl ⟨next, rfl⟩
      · exact (ih hd).imp_right fun h => ⟨List.mem_cons_of_mem e h.1, h.2⟩
    · rcases List.mem_cons.mp hd with rfl | hd
      · exact .inr ⟨List.mem_cons_self, Bool.eq_false_iff.mpr hextent⟩
      · exact (ih hd).imp_right fun h => ⟨List.mem_cons_of_mem e h.1, h.2⟩

theorem wellFormed_of_mem_generalize {ds : List Ty} (hds : ∀ d ∈ ds, WellFormed d) {next : Nat}
    {d : Ty} (hd : d ∈ generalize next ds) : WellFormed d := by
  rcases mem_generalize hd with ⟨k, rfl⟩ | ⟨hmem, -⟩
  · exact Bool.or_eq_true_iff.mpr (.inl (isNumbered_numbered k))
  · exact hds d hmem

theorem WellFormed.signature (h : WellFormed t) : WellFormed t.signature := by
  unfold Ty.signature
  split
  · next params name =>
    dsimp only
    split
    · next u hu =>
      exact wellFormed_of_makeShaped
        (fun d hd => wellFormed_of_mem_generalize (fun e he => h.of_mem_shape he) hd)
        h.measure hu
    · exact h
  · exact h

/-! ## What is left of the dimensions -/

/-- A measure under dimensions, without a name. Without dimensions it stands alone. -/
def around : List Ty → Ty → Ty
  | [], m => m
  | d :: ds, m => datashape (d :: ds ++ [m]) none

theorem around_of_ne_nil {dims : List Ty} (h : dims ≠ []) (m : Ty) :
    around dims m = datashape (dims ++ [m]) none := by
  cases dims with
  | nil => exact absurd rfl h
  | cons d ds => rfl

theorem shape_around {dims : List Ty} {m : Ty} (hm : m.kind ≠ .datashape) :
    (around dims m).shape = dims := by
  cases dims with
  | nil => exact shape_eq_nil hm
  | cons d ds => exact shape_shaped (d :: ds) m none

theorem measure_around {dims : List Ty} {m : Ty} (hm : m.kind ≠ .datashape) :
    (around dims m).measure = m := by
  cases dims with
  | nil => exact measure_eq_self hm
  | cons d ds => exact measure_shaped (d :: ds) m none

/-- A type with dimensions has each of them and its measure in the position it fits. -/
theorem fits_of_shape_ne_nil (h : NodeValid t) (hs : t.shape ≠ []) :
    t.measure.fits .measure = true ∧ ∀ d ∈ t.shape, d.fits .dimension = true := by
  cases t with
  | datashape params name => exact h.2
  | _ => exact absurd rfl hs

theorem subarray_of_lt {leading : Nat} (h : t.shape.length < leading) :
    t.subarray leading = .error (.outOfRange leading t.shape.length t) :=
  if_pos h

@[simp] theorem subarray_zero (t : Ty) : t.subarray 0 = .ok t := by
  simp [subarray]

/-- What is left of a type that loses dimensions can always be put together. -/
theorem subarray_of_ne_zero (h : NodeValid t) {leading : Nat} (hzero : leading ≠ 0)
    (hle : leading ≤ t.shape.length) :
    t.subarray leading = .ok (around (t.shape.drop leading) t.measure) := by
  unfold subarray
  dsimp only
  rw [if_neg (by omega), if_neg hzero]
  split_ifs with hall
  · -- The bare measure is taken as it is; only what keeps dimensions is checked again.
    rw [hall, List.drop_length, around]
  · obtain ⟨hmeasure, hdims⟩ := fits_of_shape_ne_nil h (List.ne_nil_of_length_pos (by omega))
    have hleft : t.shape.drop leading ≠ [] := by
      rw [Ne, List.drop_eq_nil_iff]
      omega
    rw [around_of_ne_nil hleft, makeShaped_eq_ok_iff]
    exact ⟨hleft, hmeasure, fun d hd => hdims d (List.mem_of_mem_drop hd), rfl⟩

/-- As many dimensions as there are can be dropped; the others are left, before the measure. -/
theorem exists_subarray (h : NodeValid t) {leading : Nat} (hle : leading ≤ t.shape.length) :
    ∃ u, t.subarray leading = .ok u ∧ u.shape = t.shape.drop leading ∧
      u.measure = t.measure := by
  by_cases hzero : leading = 0
  · subst hzero
    exact ⟨t, subarray_zero t, rfl, rfl⟩
  · have hne : t.shape ≠ [] := List.ne_nil_of_length_pos (by omega)
    have hk := kind_ne_datashape_of_fits (fits_of_shape_ne_nil h hne).1
    exact ⟨_, subarray_of_ne_zero h hzero hle, shape_around hk, measure_around hk⟩

theorem isOk_subarray_iff (h : NodeValid t) {leading : Nat} :
    (∃ u, t.subarray leading = .ok u) ↔ leading ≤ t.shape.length := by
  constructor
  · rintro ⟨u, hu⟩
    by_contra hlt
    rw [subarray_of_lt (Nat.not_le.mp hlt)] at hu
    cases hu
  · intro hle
    obtain ⟨u, hu, -⟩ := exists_subarray h hle
    exact ⟨u, hu⟩

theorem eq_outOfRange_of_subarray (h : NodeValid t) {leading : Nat} {cause : Violation}
    (hc : t.subarray leading = .error cause) :
    cause = .outOfRange leading t.shape.length t := by
  by_cases hlt : t.shape.length < leading
  · rw [subarray_of_lt hlt] at hc
    exact (Except.error.inj hc).symm
  · obtain ⟨u, hu, -⟩ := exists_subarray h (Nat.not_lt.mp hlt)
    rw [hu] at hc
    cases hc

theorem shape_measure_of_subarray (h : NodeValid t) {leading : Nat} {u : Ty}
    (hu : t.subarray leading = .ok u) :
    u.shape = t.shape.drop leading ∧ u.measure = t.measure := by
  obtain ⟨v, hv, hshape, hmeasure⟩ := exists_subarray h ((isOk_subarray_iff h).mp ⟨u, hu⟩)
  obtain rfl := Except.ok.inj (hu.symm.trans hv)
  exact ⟨hshape, hmeasure⟩

/-- Dimensions can be dropped in two steps, to the same type. -/
theorem subarray_subarray (hw : WellFormed t) {n m : Nat} {u : Ty} (hu : t.subarray n = .ok u)
    (hle : n + m ≤ t.shape.length) : u.subarray m = t.subarray (n + m) := by
  -- A step that drops nothing leaves the type alone, name included; any other puts together
  -- what is left, and only the dimensions dropped so far count.
  by_cases hn : n = 0
  · subst hn
    obtain rfl := Except.ok.inj ((subarray_zero t).symm.trans hu)
    rw [Nat.zero_add]
  by_cases hm : m = 0
  · subst hm
    rw [subarray_zero, Nat.add_zero, hu]
  · have hvalid := (wellFormed_of_subarray hw hu).nodeValid
    obtain ⟨hshape, hmeasure⟩ := shape_measure_of_subarray hw.nodeValid hu
    have hleft : m ≤ u.shape.length := by
      rw [hshape, List.length_drop]
      omega
    rw [subarray_of_ne_zero hvalid hm hleft, hshape, hmeasure, List.drop_drop,
      subarray_of_ne_zero hw.nodeValid (by omega) hle]

theorem bind_subarray_eq_ok_iff (hw : WellFormed t) {n m : Nat} {v : Ty} :
    (t.subarray n >>= fun u => u.subarray m) = .ok v ↔ t.subarray (n + m) = .ok v := by
  rw [bind_eq_ok_iff]
  constructor
  · rintro ⟨u, hu, hv⟩
    have hn := (isOk_subarray_iff hw.nodeValid).mp ⟨u, hu⟩
    have hm := (isOk_subarray_iff (wellFormed_of_subarray hw hu).nodeValid).mp ⟨v, hv⟩
    rw [(shape_measure_of_subarray hw.nodeValid hu).1, List.length_drop] at hm
    rw [← subarray_subarray hw hu (by omega), hv]
  · intro hv
    have hle := (isOk_subarray_iff hw.nodeValid).mp ⟨v, hv⟩
    obtain ⟨u, hu, -⟩ := exists_subarray hw.nodeValid (Nat.le_of_add_right_le hle)
    exact ⟨u, hu, (subarray_subarray hw hu hle).trans hv⟩

/-- As many dimensions as there are can be dropped, and asking for more is the only failure.
What is left is well formed, with the remaining dimensions before the same measure. Dropping
some and then others comes to dropping all of them at once. -/
theorem subarray_drops (hw : WellFormed t) (n m : Nat) :
    ((∃ u, t.subarray n = .ok u) ↔ n ≤ t.shape.length) ∧
      (∀ cause, t.subarray n = .error cause → cause = .outOfRange n t.shape.length t) ∧
      (∀ u, t.subarray n = .ok u →
        WellFormed u ∧ u.shape = t.shape.drop n ∧ u.measure = t.measure) ∧
      ((∃ v, (t.subarray n >>= fun u => u.subarray m) = .ok v) ↔
        ∃ w, t.subarray (n + m) = .ok w) ∧
      ∀ v w, (t.subarray n >>= fun u => u.subarray m) = .ok v → t.subarray (n + m) = .ok w →
        v = w ∧ equal v w = true := by
  refine ⟨isOk_subarray_iff hw.nodeValid, fun _ => eq_outOfRange_of_subarray hw.nodeValid, ?_,
    exists_congr fun _ => bind_subarray_eq_ok_iff hw, ?_⟩
  · intro u hu
    exact ⟨wellFormed_of_subarray hw hu, shape_measure_of_subarray hw.nodeValid hu⟩
  · intro v w hsteps honce
    rw [bind_subarray_eq_ok_iff hw] at hsteps
    obtain rfl := Except.ok.inj (hsteps.symm.trans honce)
    exact ⟨rfl, equal_refl (wellFormed_of_subarray hw honce)⟩

/-- A named grid with an open, a fixed and a constant dimension. -/
def namedGrid : Ty :=
  datashape [var, fixed 3, intConst 2, scalar .float64] (some "Grid")

/-- The bare measure is left in the end, and nothing more can be dropped. -/
theorem subarray_drops_namedGrid :
    WellFormed namedGrid ∧
      (∃ u, namedGrid.subarray 1 = .ok u ∧ WellFormed u ∧ u.shape = [fixed 3, intConst 2] ∧
        u.measure = scalar .float64) ∧
      (∃ v, (namedGrid.subarray 1 >>= fun u => u.subarray 2) = .ok v ∧
        equal v (scalar .float64) = true) ∧
      ¬ ∃ u, namedGrid.subarray 4 = .ok u := by
  have hw : WellFormed namedGrid := by decide
  obtain ⟨-, -, hleft, hcomposed, hsame⟩ := subarray_drops hw 1 2
  obtain ⟨hok, -⟩ := subarray_drops hw 4 0
  obtain ⟨v, hv⟩ := hcomposed.mpr ⟨scalar .float64, rfl⟩
  exact ⟨hw, ⟨_, rfl, hleft _ rfl⟩, ⟨v, hv, (hsame v _ hv rfl).2⟩, mt hok.mp (by decide)⟩

/-! ## What generalising leaves -/

theorem fits_of_mem_generalize {ds : List Ty} (hds : ∀ d ∈ ds, d.fits .dimension = true)
    {next : Nat} {d : Ty} (hd : d ∈ generalize next ds) : d.fits .dimension = true := by
  rcases mem_generalize hd with ⟨k, rfl⟩ | ⟨hmem, -⟩
  · rfl
  · exact hds d hmem

theorem length_generalize (next : Nat) (ds : List Ty) :
    (generalize next ds).length = ds.length := by
  induction ds generalizing next with
  | nil => rfl
  | cons d ds ih =>
    unfold generalize
    split_ifs <;> simp [ih]

theorem signature_eq_self (h : t.kind ≠ .datashape) : t.signature = t := by
  cases t with
  | datashape params name => exact absurd rfl h
  | _ => rfl

/-- Variables stand wherever the known extents did, so a valid datashape can be made again. -/
theorem makeShaped_generalize {params : List Ty} {name : Option String}
    (h : NodeValid (datashape params name)) :
    makeShaped (generalize 0 (datashape params name).shape) (datashape params name).measure =
      .ok (datashape (generalize 0 (datashape params name).shape ++
        [(datashape params name).measure]) none) := by
  rw [makeShaped_eq_ok_iff]
  refine ⟨?_, h.2.1, fun d hd => fits_of_mem_generalize h.2.2 hd, rfl⟩
  apply List.ne_nil_of_length_pos
  rw [length_generalize, shape, List.length_dropLast]
  have hlen := h.1
  omega

/-- Only the dimensions of a valid datashape change, and its name goes. -/
theorem signature_datashape {params : List Ty} {name : Option String}
    (h : NodeValid (datashape params name)) :
    (datashape params name).signature =
      datashape (generalize 0 (datashape params name).shape ++
        [(datashape params name).measure]) none := by
  unfold signature
  dsimp only
  rw [makeShaped_generalize h]

theorem shape_signature (h : NodeValid t) : t.signature.shape = generalize 0 t.shape := by
  cases t with
  | datashape params name => rw [signature_datashape h, shape_shaped]
  | _ => rfl

theorem measure_signature (h : NodeValid t) : t.signature.measure = t.measure := by
  cases t with
  | datashape params name => rw [signature_datashape h, measure_shaped]
  | _ => rfl

end ShapeAlgebra.Ty
