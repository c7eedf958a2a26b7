import ShapeAlgebra.Proofs.Parameter.Normalization

/-!
# Missing and surplus parameters

A kind with a fixed number of parameters reads that many, whatever stands beyond them. The ones
missing at the end count as omitted. Surplus ones are refused, but only after the others have
been checked. Datashapes and functions read all parameters, and each of them has to be a type.
-/
namespace ShapeAlgebra

namespace Parameter

variable {kind : Kind} {ps : List Parameter}

/-! ## The parameters that are read -/

theorem length_taken {k : Nat} (hk : kind.arity? = some k) (ps : List Parameter) :
    (taken kind ps).length = k := by
  simp [taken, hk]

theorem taken_take {k : Nat} (hk : kind.arity? = some k) (ps : List Parameter) :
    taken kind (ps.take k) = taken kind ps := by
  simp only [taken, hk]
  apply List.map_congr_left
  intro i hi
  rw [List.getD_eq_getElem?_getD, List.getD_eq_getElem?_getD,
    List.getElem?_take_of_lt (List.mem_range.mp hi)]

def isType : Parameter → Bool
  | type _ => true
  | _ => false

theorem Slot.eachType_of_find? (s : Slot) {p : Parameter}
    (h : ps.find? (fun p => !p.isType) = some p) :
    s.eachType ps = s.fail (.mismatch .type p) := by
  induction ps with
  | nil => cases h
  | cons q ps ih =>
    cases q with
    | type t =>
      rw [List.find?_cons_of_neg (by simp [isType])] at h
      rw [eachType, ih h]
      rfl
    | _ =>
      rw [List.find?_cons_of_pos rfl] at h
      obtain rfl := Option.some.inj h
      rfl

end Parameter

namespace Ty

open Parameter

variable {kind : Kind} {ps : List Parameter}

/-- Every slot of a kind of fixed arity asks for a place below the arity. -/
theorem build_taken (kind : Kind) (ps : List Parameter) :
    build kind (taken kind ps) = build kind ps := by
  cases kind <;> rfl

theorem ofParameters_of_missing {k : Nat} (hk : kind.arity? = some k) (hlen : ps.length ≤ k) :
    ofParameters kind ps = ofParameters kind (ps.rightpad k .omitted) := by
  have hle : ∀ n ∈ kind.arity?, ps.length ≤ n := by
    intro n hn
    rw [hk, Option.mem_some_iff] at hn
    omega
  have hpadded : ps.rightpad k .omitted = taken kind ps := by
    rw [← rightpad_eq_taken hle, hk, Option.getD_some]
  have hfilled : ∀ n ∈ kind.arity?, (taken kind ps).length ≤ n := by
    intro n hn
    exact Nat.le_of_eq (length_taken hn ps)
  rw [hpadded, ofParameters_eq_build hle, ofParameters_eq_build hfilled, build_taken]

theorem ofParameters_of_surplus {k : Nat} (hk : kind.arity? = some k) (hlen : k < ps.length) :
    ofParameters kind ps =
      (ofParameters kind (ps.take k) >>= fun _ => .error (.arity kind .fewer ps.length)) := by
  have hle : ∀ n ∈ kind.arity?, (ps.take k).length ≤ n := by
    intro n hn
    rw [hk, Option.mem_some_iff] at hn
    rw [List.length_take]
    omega
  have hbuild : build kind (ps.take k) = build kind ps := by
    rw [← build_taken, taken_take hk, build_taken]
  -- The count is looked at last, so a fault in the first ones is the one reported.
  rw [ofParameters_eq_build hle, hbuild, ofParameters_eq]
  simp only [hk, Option.any_some, decide_eq_true hlen, if_true]
  rfl

theorem ofParameters_of_not_isType (hk : kind = .datashape ∨ kind = .function) {p : Parameter}
    (h : ps.find? (fun p => !p.isType) = some p) :
    ofParameters kind ps = .error (.invalidParameter kind "params" (.mismatch .type p)) := by
  have hread := Slot.eachType_of_find? ⟨kind, "params"⟩ h
  rcases hk with rfl | rfl <;> rw [ofParameters_eq, build, hread] <;> rfl

/-- Too few parameters for a kind of fixed arity are as good as the same ones with omitted
ones after them. Too many are refused, with the number of all of them, unless the ones that
are read are refused themselves. A datashape or a function is refused for the first of its
parameters that is no type. -/
theorem ofParameters_arity (ps : List Parameter) :
    (∀ k, ∀ kind ∈ Kind.taking k,
      (ps.length < k → ofParameters kind ps = ofParameters kind (ps.rightpad k .omitted)) ∧
      (k < ps.length →
        (∀ cause, ofParameters kind (ps.take k) = .error cause →
          ofParameters kind ps = .error cause) ∧
        ∀ t, ofParameters kind (ps.take k) = .ok t →
          ofParameters kind ps = .error (.arity kind .fewer ps.length))) ∧
    ∀ kind, kind = .datashape ∨ kind = .function → (∃ p ∈ ps, p.isType = false) →
      ∃ p, ps.find? (fun p => !p.isType) = some p ∧
        ofParameters kind ps = .error (.invalidParameter kind "params" (.mismatch .type p)) := by
  constructor
  · intro k kind hkind
    have hk := Kind.arity?_of_mem_taking hkind
    refine ⟨fun hlen => ofParameters_of_missing hk (Nat.le_of_lt hlen), fun hlen => ?_⟩
    rw [ofParameters_of_surplus hk hlen]
    constructor
    · intro cause hcause
      rw [hcause]
      rfl
    · intro t ht
      rw [ht]
      rfl
  · rintro kind hkind ⟨q, hq, hnot⟩
    have hsome : (ps.find? fun p => !p.isType).isSome = true :=
      List.find?_isSome.mpr ⟨q, hq, by rw [hnot]; rfl⟩
    obtain ⟨p, hp⟩ := Option.isSome_iff_exists.mp hsome
    exact ⟨p, hp, ofParameters_of_not_isType hkind hp⟩

/-- A missing alignment, a surplus parameter after good and after bad ones, and a function with
two parameters that are no types. -/
theorem ofParameters_arity_mixed :
    ofParameters .scalar [.str "int8", .int 1] =
        ofParameters .scalar [.str "int8", .int 1, .omitted] ∧
      ofParameters .var [.omitted] = .error (.arity .var .fewer 1) ∧
      ofParameters .fixed [.int (-1), .omitted] = .error (.negativeDimension (-1)) ∧
      ofParameters .function [.type json, .int 1, .str "s"] =
        .error (.invalidParameter .function "params" (.mismatch .type (.int 1))) := by
  obtain ⟨hscalar, -⟩ := ofParameters_arity [.str "int8", .int 1]
  obtain ⟨hvar, -⟩ := ofParameters_arity [.omitted]
  obtain ⟨hfixed, -⟩ := ofParameters_arity [.int (-1), .omitted]
  obtain ⟨-, hfunction⟩ := ofParameters_arity [.type json, .int 1, .str "s"]
  refine ⟨(hscalar 3 .scalar (by decide)).1 (by decide), ?_, ?_, ?_⟩
  · exact ((hvar 0 .var (by decide)).2 (by decide)).2 var rfl
  · exact ((hfixed 1 .fixed (by decide)).2 (by decide)).1 _ rfl
  · obtain ⟨p, hp, herror⟩ := hfunction .function (.inr rfl) ⟨.int 1, by simp, rfl⟩
    obtain rfl := Option.some.inj hp
    exact herror

end Ty

end ShapeAlgebra
