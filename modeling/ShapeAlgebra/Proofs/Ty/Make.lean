import ShapeAlgebra.Proofs.Outcome
import ShapeAlgebra.Proofs.Ty.Parts
import ShapeAlgebra.Proofs.Word
import ShapeAlgebra.Ty.Make

/-!
# What the checked constructors accept

A constructor gives its node exactly when the node is valid, and gives it as it is.
-/
namespace ShapeAlgebra

namespace Ty

variable {t : Ty}

theorem symbolParse_eq_ok_iff {symbol s : String} :
    Symbol.parse symbol = .ok s ↔ Symbol.isValid symbol = true ∧ s = symbol :=
  guard_eq_ok_iff

theorem makeFixed_eq_ok_iff {extent : Int64} :
    makeFixed extent = .ok t ↔ ∃ n : UInt64, extent.toInt = n.toNat ∧ t = fixed n := by
  simp only [← Word.unsigned?_eq_some_iff]
  unfold makeFixed
  cases h : Word.unsigned? extent.toInt <;> simp [eq_comm]

theorem checkDimensions_eq_ok_iff {index : Nat} {ds : List Ty} :
    checkDimensions index ds = .ok () ↔ ∀ d ∈ ds, d.fits .dimension = true := by
  induction ds generalizing index with
  | nil => simp [checkDimensions]
  | cons d ds ih =>
    unfold checkDimensions
    split_ifs with h <;> simp [ih, h]

theorem makeDatashape_eq_ok_iff {params : List Ty} :
    makeDatashape params = .ok t ↔
      NodeValid (datashape params none) ∧ t = datashape params none := by
  simp only [makeDatashape, NodeValid]
  split_ifs with hlen hmeasure
  · simp [Nat.not_le.mpr hlen]
  · rw [Bool.not_eq_true'] at hmeasure
    simp [hmeasure]
  · have hfits : (datashape params none).measure.fits .measure = true := by
      simpa using hmeasure
    rw [map_const_eq_ok_iff, checkDimensions_eq_ok_iff]
    constructor
    · rintro ⟨hdims, ht⟩
      exact ⟨⟨Nat.not_lt.mp hlen, hfits, hdims⟩, ht⟩
    · rintro ⟨⟨-, -, hdims⟩, ht⟩
      exact ⟨hdims, ht⟩

theorem makeShaped_eq_ok_iff {dims : List Ty} {measure : Ty} :
    makeShaped dims measure = .ok t ↔
      dims ≠ [] ∧ measure.fits .measure = true ∧ (∀ d ∈ dims, d.fits .dimension = true) ∧
        t = datashape (dims ++ [measure]) none := by
  rw [makeShaped, makeDatashape_eq_ok_iff, nodeValid_shaped_iff, and_assoc, and_assoc]

theorem makeNamed_eq_ok_iff {name : Option String} {params : List Ty} :
    makeNamed name params = .ok t ↔
      NodeValid (datashape params name) ∧ t = datashape params name := by
  rw [makeNamed, nodeValid_name_iff name none]
  cases h : makeDatashape params with
  | error cause =>
    have hnot : ¬ NodeValid (datashape params none) := by
      intro hv
      rw [makeDatashape_eq_ok_iff.mpr ⟨hv, rfl⟩] at h
      cases h
    simp [Except.map, hnot]
  | ok t' =>
    simp [Except.map, (makeDatashape_eq_ok_iff.mp h).1, eq_comm]

theorem checkFields_eq_ok_iff {taken : List String} {fs : List (String × Ty)} :
    checkFields taken fs = .ok () ↔
      (∀ f ∈ fs, f.1 ∉ taken) ∧ NodeValid (record fs) := by
  induction fs generalizing taken with
  | nil => simp [checkFields, NodeValid]
  | cons f fs ih =>
    obtain ⟨name, t⟩ := f
    unfold checkFields
    split_ifs with htaken hstand
    · have hname : name ∈ taken := by simpa using htaken
      simp [hname]
    · have ht : ¬ t.isStandalone = true := by simpa using hstand
      simp [NodeValid, ht]
    · have hname : name ∉ taken := by simpa using htaken
      have ht : t.isStandalone = true := by simpa using hstand
      rw [ih, NodeValid, NodeValid, List.map_cons, List.nodup_cons]
      grind

theorem makeRecord_eq_ok_iff {fields : List (String × Ty)} :
    makeRecord fields = .ok t ↔ NodeValid (record fields) ∧ t = record fields := by
  rw [makeRecord, map_const_eq_ok_iff, checkFields_eq_ok_iff]
  simp

theorem checkStandalone_eq_ok_iff {owner : Kind} {ts : List Ty} :
    checkStandalone owner ts = .ok () ↔ ∀ t ∈ ts, t.isStandalone = true := by
  induction ts with
  | nil => simp [checkStandalone]
  | cons t ts ih =>
    unfold checkStandalone
    split_ifs with h <;> simp [ih, h]

theorem makeTuple_eq_ok_iff {members : List Ty} :
    makeTuple members = .ok t ↔ NodeValid (tuple members) ∧ t = tuple members := by
  rw [makeTuple, map_const_eq_ok_iff, checkStandalone_eq_ok_iff, NodeValid]

theorem makeFunction_eq_ok_iff {params : List Ty} :
    makeFunction params = .ok t ↔ NodeValid (function params) ∧ t = function params := by
  rw [makeFunction, NodeValid]
  split_ifs with h
  · simp [List.isEmpty_iff.mp h]
  · have hne : params ≠ [] := by simpa using h
    rw [map_const_eq_ok_iff, checkStandalone_eq_ok_iff]
    simp [hne]

theorem makeUnits_eq_ok_iff {unit : String} {value : Option Ty} :
    makeUnits unit value = .ok t ↔
      NodeValid (units unit (value.getD standardValue)) ∧
        t = units unit (value.getD standardValue) :=
  guard_eq_ok_iff

theorem makeOption_eq_ok_iff {value : Ty} :
    makeOption value = .ok t ↔ NodeValid (option value) ∧ t = option value := by
  rw [makeOption, guard_eq_ok_iff, beq_iff_eq, NodeValid]

/-! ## Well-formedness

What a constructor accepts is well formed if its parts are. -/

theorem wellFormed_of_makeUnits {unit : String} {value : Option Ty}
    (hvalue : ∀ v ∈ value, WellFormed v) (h : makeUnits unit value = .ok t) : WellFormed t := by
  obtain ⟨hvalid, rfl⟩ := makeUnits_eq_ok_iff.mp h
  refine wellFormed_iff.mpr ⟨hvalid, fun v hv => ?_⟩
  obtain rfl := List.mem_singleton.mp hv
  cases value with
  | none => exact trivial
  | some v => exact hvalue v rfl

theorem wellFormed_of_makeNamed {name : Option String} {params : List Ty}
    (hparams : ∀ p ∈ params, WellFormed p) (h : makeNamed name params = .ok t) :
    WellFormed t := by
  obtain ⟨hvalid, rfl⟩ := makeNamed_eq_ok_iff.mp h
  exact wellFormed_iff.mpr ⟨hvalid, hparams⟩

theorem wellFormed_of_makeDatashape {params : List Ty} (hparams : ∀ p ∈ params, WellFormed p)
    (h : makeDatashape params = .ok t) : WellFormed t := by
  obtain ⟨hvalid, rfl⟩ := makeDatashape_eq_ok_iff.mp h
  exact wellFormed_iff.mpr ⟨hvalid, hparams⟩

theorem wellFormed_of_makeShaped {dims : List Ty} {measure : Ty}
    (hdims : ∀ d ∈ dims, WellFormed d) (hmeasure : WellFormed measure)
    (h : makeShaped dims measure = .ok t) : WellFormed t := by
  refine wellFormed_of_makeDatashape (fun p hp => ?_) h
  rcases List.mem_append.mp hp with hp | hp
  · exact hdims p hp
  · exact List.mem_singleton.mp hp ▸ hmeasure

theorem wellFormed_of_makeRecord {fields : List (String × Ty)}
    (hfields : ∀ f ∈ fields, WellFormed f.2) (h : makeRecord fields = .ok t) :
    WellFormed t := by
  obtain ⟨hvalid, rfl⟩ := makeRecord_eq_ok_iff.mp h
  exact wellFormed_iff.mpr ⟨hvalid, List.forall_mem_map.mpr hfields⟩

theorem wellFormed_of_makeTuple {members : List Ty} (hmembers : ∀ m ∈ members, WellFormed m)
    (h : makeTuple members = .ok t) : WellFormed t := by
  obtain ⟨hvalid, rfl⟩ := makeTuple_eq_ok_iff.mp h
  exact wellFormed_iff.mpr ⟨hvalid, hmembers⟩

theorem wellFormed_of_makeFunction {params : List Ty} (hparams : ∀ p ∈ params, WellFormed p)
    (h : makeFunction params = .ok t) : WellFormed t := by
  obtain ⟨hvalid, rfl⟩ := makeFunction_eq_ok_iff.mp h
  exact wellFormed_iff.mpr ⟨hvalid, hparams⟩

theorem wellFormed_of_makeOption {value : Ty} (hvalue : WellFormed value)
    (h : makeOption value = .ok t) : WellFormed t := by
  obtain ⟨hvalid, rfl⟩ := makeOption_eq_ok_iff.mp h
  exact wellFormed_iff.mpr ⟨hvalid, fun v hv => List.mem_singleton.mp hv ▸ hvalue⟩

theorem wellFormed_of_makeTypeVar {symbol : String} (h : makeTypeVar symbol = .ok t) :
    WellFormed t := by
  obtain ⟨s, hs, rfl⟩ := map_eq_ok_iff.mp h
  obtain ⟨hvalid, rfl⟩ := symbolParse_eq_ok_iff.mp hs
  exact hvalid

theorem wellFormed_of_makeString {length : Option UInt64} {spelling : Option String}
    (h : makeString length spelling = .ok t) : WellFormed t := by
  cases spelling with
  | none =>
    obtain rfl := Except.ok.inj h
    exact trivial
  | some spelling =>
    obtain ⟨encoding, -, rfl⟩ := map_eq_ok_iff.mp h
    exact trivial

theorem wellFormed_of_makeWritten {symbol : String} (h : makeWritten symbol = .ok t) :
    WellFormed t := by
  obtain ⟨hwritten, rfl⟩ := guard_eq_ok_iff.mp h
  exact Bool.or_eq_true_iff.mpr (.inr hwritten)

end Ty

end ShapeAlgebra
