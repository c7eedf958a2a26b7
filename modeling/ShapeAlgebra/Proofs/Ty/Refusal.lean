import Mathlib.Order.Bounds.Basic
import ShapeAlgebra.Proofs.Ty.Make

/-!
# What the checked constructors refuse

A datashape or a record is refused for one violation, whatever else is wrong with its parts. For
a datashape the number of its parameters comes first, then the measure, then the dimensions from
left to right. The fields of a record are looked at one by one, and of each field the name before
the type.
-/
namespace ShapeAlgebra

section LeastFault

variable {ε α : Type} {fault : Nat → Option ε} {n : Nat} {e : ε}

/-- The first fault found among the first `n` places is the one at the least place with a fault,
if there is none further on. -/
theorem exists_isLeast_of_findSome? (hout : ∀ i, n ≤ i → fault i = none)
    (h : (List.range n).findSome? fault = some e) :
    ∃ i, IsLeast {i | (fault i).isSome = true} i ∧ fault i = some e := by
  obtain ⟨before, i, after, hrange, hi, hbefore⟩ := List.findSome?_eq_some_iff.mp h
  refine ⟨i, ⟨by simp [hi], ?_⟩, hi⟩
  intro j hj
  have hsorted := List.pairwise_lt_range (n := n)
  have hmem : j ∈ List.range n := by
    rw [List.mem_range]
    by_contra hge
    simp [hout j (by omega)] at hj
  -- The places are walked in order, so those behind `i` are greater than `i`.
  rw [hrange] at hmem hsorted
  rcases List.mem_append.mp hmem with hmem | hmem
  · simp [hbefore j hmem] at hj
  · rcases List.mem_cons.mp hmem with rfl | hmem
    · exact le_refl j
    · have hlt := (List.pairwise_cons.mp (List.pairwise_append.mp hsorted).2.1).1 j hmem
      omega

theorem Reports.eq_error_iff_isLeast {x : Except ε α} (h : Reports fault (List.range n) x)
    (hout : ∀ i, n ≤ i → fault i = none) :
    x = .error e ↔ ∃ i, IsLeast {i | (fault i).isSome = true} i ∧ fault i = some e := by
  rw [h.eq_error_iff]
  constructor
  · exact exists_isLeast_of_findSome? hout
  · rintro ⟨i, hleast, hi⟩
    cases hfound : (List.range n).findSome? fault with
    | none =>
      have hnone := List.findSome?_eq_none_iff.mp hfound
      by_cases hlt : i < n
      · simp [hnone i (List.mem_range.mpr hlt)] at hi
      · simp [hout i (by omega)] at hi
    | some e' =>
      obtain ⟨i', hleast', hi'⟩ := exists_isLeast_of_findSome? hout hfound
      rw [hleast.unique hleast', hi'] at hi
      exact hi

/-- A check that walks along a list, told what it has passed, and stops at the first place with a
fault. -/
structure Scans (check : List α → List α → Except ε Unit)
    (fault : List α → Nat → Option ε) : Prop where
  nil : ∀ earlier, check earlier [] = .ok ()
  pass : ∀ earlier x later, fault (earlier ++ x :: later) earlier.length = none →
    check earlier (x :: later) = check (earlier ++ [x]) later
  stop : ∀ earlier x later e, fault (earlier ++ x :: later) earlier.length = some e →
    check earlier (x :: later) = .error e

theorem Scans.reports {check : List α → List α → Except ε Unit}
    {fault : List α → Nat → Option ε} (h : Scans check fault) (earlier later : List α) :
    Reports (fault (earlier ++ later)) (List.range' earlier.length later.length)
      (check earlier later) := by
  induction later generalizing earlier with
  | nil =>
    rw [h.nil]
    exact .ok ()
  | cons x later ih =>
    have hrest := ih (earlier ++ [x])
    rw [List.append_assoc, List.singleton_append, List.length_append, List.length_singleton]
      at hrest
    rw [List.length_cons, List.range'_succ]
    cases hfault : fault (earlier ++ x :: later) earlier.length with
    | none =>
      rw [h.pass earlier x later hfault]
      exact .cons_none hfault hrest
    | some e =>
      rw [h.stop earlier x later e hfault]
      exact .cons_some hfault

theorem Scans.eq_error_iff_isLeast {check : List α → List α → Except ε Unit}
    {fault : List α → Nat → Option ε} (h : Scans check fault) {xs : List α}
    (hout : ∀ i, xs.length ≤ i → fault xs i = none) :
    check [] xs = .error e ↔
      ∃ i, IsLeast {i | (fault xs i).isSome = true} i ∧ fault xs i = some e := by
  have hreports := h.reports [] xs
  rw [List.nil_append, List.length_nil, ← List.range_eq_range'] at hreports
  exact hreports.eq_error_iff_isLeast hout

end LeastFault

namespace Ty

/-! ## Datashapes -/

/-- What is wrong with the dimension at the index, if there is one and something is. -/
def dimensionFault? (dims : List Ty) (i : Nat) : Option Violation :=
  match dims[i]? with
  | none => none
  | some d => if d.fits .dimension then none else some (.notDimension i d)

theorem dimensionFault?_append (earlier : List Ty) (d : Ty) (later : List Ty) :
    dimensionFault? (earlier ++ d :: later) earlier.length =
      if d.fits .dimension then none else some (.notDimension earlier.length d) := by
  simp [dimensionFault?]

theorem scans_dimensions :
    Scans (fun earlier later => checkDimensions earlier.length later) dimensionFault? := by
  refine ⟨fun earlier => rfl, ?_, ?_⟩
  · intro earlier d later h
    rw [dimensionFault?_append] at h
    split_ifs at h with hfits
    rw [checkDimensions, if_pos hfits, List.length_append, List.length_singleton]
  · intro earlier d later e h
    rw [dimensionFault?_append] at h
    split_ifs at h with hfits
    rw [checkDimensions, if_neg hfits, Option.some.inj h]

theorem checkDimensions_eq_error_iff {dims : List Ty} {e : Violation} :
    checkDimensions 0 dims = .error e ↔
      ∃ i, IsLeast {i | (dimensionFault? dims i).isSome = true} i ∧
        dimensionFault? dims i = some e := by
  apply scans_dimensions.eq_error_iff_isLeast
  intro i hi
  rw [dimensionFault?, List.getElem?_eq_none hi]

theorem getLast?_eq_measure {params : List Ty} (h : 2 ≤ params.length) :
    params.getLast? = some (datashape params none).measure := by
  have hne : params ≠ [] := List.ne_nil_of_length_pos (by omega)
  rw [params_eq_shape_append_measure hne none, List.getLast?_concat, measure_shaped]

theorem nodeValid_iff_getLast? {params : List Ty} :
    NodeValid (datashape params none) ↔ 2 ≤ params.length ∧
      (∀ m ∈ params.getLast?, m.fits .measure = true) ∧
      ∀ d ∈ params.dropLast, d.fits .dimension = true := by
  rw [NodeValid]
  apply and_congr_right
  intro henough
  rw [getLast?_eq_measure henough, shape]
  simp

/-- Why a datashape is refused. Its parameters are too few, or the last of them is no measure,
or else the first of the others that is no dimension is to blame. -/
inductive DatashapeFault (params : List Ty) : Violation → Prop
  | arity (short : params.length < 2) :
    DatashapeFault params (.arity .datashape (.atLeast 2) params.length)
  | measure {m : Ty} (enough : 2 ≤ params.length) (last : params.getLast? = some m)
      (unfit : m.fits .measure = false) : DatashapeFault params (.notMeasure .datashape m)
  | dimension {m : Ty} {i : Nat} {e : Violation} (enough : 2 ≤ params.length)
      (last : params.getLast? = some m) (fit : m.fits .measure = true)
      (least : IsLeast {i | (dimensionFault? params.dropLast i).isSome = true} i)
      (fault : dimensionFault? params.dropLast i = some e) : DatashapeFault params e

theorem makeDatashape_eq_error_iff {params : List Ty} {e : Violation} :
    makeDatashape params = .error e ↔ DatashapeFault params e := by
  rw [makeDatashape]
  by_cases hshort : params.length < 2
  · rw [if_pos hshort]
    constructor
    · rintro ⟨⟩
      exact .arity hshort
    · rintro (_ | ⟨henough, -, -⟩ | ⟨henough, -, -, -, -⟩)
      · rfl
      · omega
      · omega
  · have henough : 2 ≤ params.length := by omega
    have hlast := getLast?_eq_measure henough
    rw [if_neg hshort]
    cases hfit : (datashape params none).measure.fits .measure with
    | false =>
      constructor
      · rintro ⟨⟩
        exact .measure henough hlast hfit
      · rintro (hshort' | ⟨-, hlast', -⟩ | ⟨-, hlast', hfit', -, -⟩)
        · omega
        · obtain rfl := Option.some.inj (hlast.symm.trans hlast')
          rfl
        · obtain rfl := Option.some.inj (hlast.symm.trans hlast')
          simp [hfit] at hfit'
    | true =>
      change (checkDimensions 0 params.dropLast).map _ = _ ↔ _
      rw [map_eq_error_iff, checkDimensions_eq_error_iff]
      constructor
      · rintro ⟨i, hleast, hfault⟩
        exact .dimension henough hlast hfit hleast hfault
      · rintro (hshort' | ⟨-, hlast', hunfit⟩ | ⟨-, -, -, hleast, hfault⟩)
        · omega
        · obtain rfl := Option.some.inj (hlast.symm.trans hlast')
          simp [hfit] at hunfit
        · exact ⟨_, hleast, hfault⟩

/-! ## Records -/

/-- What is wrong with the field at the index, if there is one and something is: the name is that
of an earlier field, or else the type is not standalone. -/
def fieldFault? (fields : List (String × Ty)) (i : Nat) : Option Violation :=
  match fields[i]? with
  | none => none
  | some (name, t) =>
    if name ∈ (fields.take i).map Prod.fst then some (.duplicateField name)
    else if t.isStandalone then none
    else some (.notMeasure .record t)

theorem fieldFault?_append (earlier : List (String × Ty)) (name : String) (t : Ty)
    (later : List (String × Ty)) :
    fieldFault? (earlier ++ (name, t) :: later) earlier.length =
      if name ∈ earlier.map Prod.fst then some (.duplicateField name)
      else if t.isStandalone then none
      else some (.notMeasure .record t) := by
  have hgot : (earlier ++ (name, t) :: later)[earlier.length]? = some (name, t) := by simp
  simp only [fieldFault?, hgot, List.take_left]

theorem scans_fields :
    Scans (fun earlier later => checkFields (earlier.map Prod.fst).reverse later) fieldFault? := by
  refine ⟨fun earlier => rfl, ?_, ?_⟩
  · rintro earlier ⟨name, t⟩ later h
    rw [fieldFault?_append] at h
    split_ifs at h with hname ht
    rw [checkFields, if_neg (by simpa using hname), if_neg (by simp [ht])]
    simp
  · rintro earlier ⟨name, t⟩ later e h
    rw [fieldFault?_append] at h
    split_ifs at h with hname ht
    · rw [checkFields, if_pos (by simpa using hname), Option.some.inj h]
    · rw [checkFields, if_neg (by simpa using hname), if_pos (by simp [ht]), Option.some.inj h]

theorem makeRecord_eq_error_iff {fields : List (String × Ty)} {e : Violation} :
    makeRecord fields = .error e ↔
      ∃ i, IsLeast {i | (fieldFault? fields i).isSome = true} i ∧
        fieldFault? fields i = some e := by
  rw [makeRecord, map_eq_error_iff]
  apply scans_fields.eq_error_iff_isLeast
  intro i hi
  rw [fieldFault?, List.getElem?_eq_none hi]

/-- A datashape takes two or more parameters of which the last fits the place of a measure
and the others that of a dimension, and keeps them as they are. A record takes standalone
types under distinct names, and keeps them in order. Anything else is refused for its first
fault. -/
theorem makeDatashape_makeRecord_outcome :
    (∀ params : List Ty,
      ((∃ t, makeDatashape params = .ok t) ↔ 2 ≤ params.length ∧
        (∀ m ∈ params.getLast?, m.fits .measure = true) ∧
        ∀ d ∈ params.dropLast, d.fits .dimension = true) ∧
      (∀ t, makeDatashape params = .ok t →
        t.shape = params.dropLast ∧ params.getLast? = some t.measure) ∧
      ∀ e, makeDatashape params = .error e ↔ DatashapeFault params e) ∧
    ∀ fields : List (String × Ty),
      ((∃ t, makeRecord fields = .ok t) ↔ (fields.map Prod.fst).Nodup ∧
        ∀ f ∈ fields, f.2.isStandalone = true) ∧
      (∀ t, makeRecord fields = .ok t → t.fields = fields) ∧
      ∀ e, makeRecord fields = .error e ↔
        ∃ i, IsLeast {i | (fieldFault? fields i).isSome = true} i ∧
          fieldFault? fields i = some e := by
  constructor
  · intro params
    refine ⟨?_, ?_, fun e => makeDatashape_eq_error_iff⟩
    · rw [← nodeValid_iff_getLast?]
      simp only [makeDatashape_eq_ok_iff, exists_and_left, exists_eq, and_true]
    · intro t ht
      obtain ⟨⟨henough, -⟩, rfl⟩ := makeDatashape_eq_ok_iff.mp ht
      exact ⟨rfl, getLast?_eq_measure henough⟩
  · intro fields
    refine ⟨?_, ?_, fun e => makeRecord_eq_error_iff⟩
    · simp only [makeRecord_eq_ok_iff, exists_and_left, exists_eq, and_true, NodeValid]
    · intro t ht
      obtain ⟨-, rfl⟩ := makeRecord_eq_ok_iff.mp ht
      rfl

/-- A good datashape, one with a bad measure and bad dimensions, and one with two bad dimensions;
a good record, and one with a repeated name in front of a type that is not standalone. -/
theorem makeDatashape_makeRecord_outcome_mixed :
    (∃ t, makeDatashape [fixed 3, var, json] = .ok t ∧ t.shape = [fixed 3, var]) ∧
      makeDatashape [json, null, var] = .error (.notMeasure .datashape var) ∧
      makeDatashape [fixed 3, json, null, date] = .error (.notDimension 1 json) ∧
      (∃ t, makeRecord [("y", json), ("x", date)] = .ok t ∧
        t.fields = [("y", json), ("x", date)]) ∧
      makeRecord [("x", json), ("x", var), ("y", var)] = .error (.duplicateField "x") := by
  obtain ⟨hdatashape, hrecord⟩ := makeDatashape_makeRecord_outcome
  refine ⟨⟨_, rfl, ?_⟩, ?_, ?_, ⟨_, rfl, ?_⟩, ?_⟩
  · exact ((hdatashape [fixed 3, var, json]).2.1 _ rfl).1
  · exact ((hdatashape [json, null, var]).2.2 _).mpr (.measure (by decide) rfl rfl)
  · have hleast : IsLeast {i | (dimensionFault? [fixed 3, json, null] i).isSome = true} 1 := by
      refine ⟨rfl, ?_⟩
      rintro (_ | j) hj
      · cases hj
      · omega
    exact ((hdatashape [fixed 3, json, null, date]).2.2 _).mpr
      (.dimension (by decide) rfl rfl hleast rfl)
  · exact (hrecord [("y", json), ("x", date)]).2.1 _ rfl
  · refine ((hrecord [("x", json), ("x", var), ("y", var)]).2.2 _).mpr ⟨1, ⟨rfl, ?_⟩, rfl⟩
    rintro (_ | j) hj
    · cases hj
    · omega

end Ty

end ShapeAlgebra
