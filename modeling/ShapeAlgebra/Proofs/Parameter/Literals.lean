import ShapeAlgebra.Proofs.Parameter.Congruence
import ShapeAlgebra.Proofs.Parameter.Normalization

/-!
# Literals and the constants that hold them

Where a kind asks for an integer or a string, the plain value and the constant type that holds it
are interchangeable, in any number of places at once. A slot for a literal reads both alike, and
whether a lone string of a string measure is its encoding does not depend on how the string is
given.
-/
namespace ShapeAlgebra

/-- The places of a kind that take integers or strings. The first place of a string measure takes
either, since a lone string there is the encoding. -/
def Kind.literalPlaces : Kind → List Nat
  | time | datetime | units | intConst | strConst | fixed | typeVar => [0]
  | string => [0, 1]
  | scalar => [0, 1, 2]
  | implements => [1]
  | _ => []

namespace Parameter

/-! ## Wrapping -/

/-- A plain value as the constant type that holds it, if there is one. -/
def wrapped : Parameter → Parameter
  | int value =>
    match Word.signed? value with
    | some n => type (.intConst n)
    | none => int value
  | str value => type (.strConst value)
  | p => p

/-- The parameters with the plain values in the chosen places wrapped, as far as these places
take literals. -/
def wrapAt (kind : Kind) (chosen : Nat → Bool) (ps : List Parameter) : List Parameter :=
  ps.mapIdx fun i p => if i ∈ kind.literalPlaces ∧ chosen i = true then p.wrapped else p

theorem unwrapped_wrapped (p : Parameter) : p.wrapped.unwrapped = p.unwrapped := by
  cases p with
  | int value =>
    rw [wrapped]
    split
    · next n hn =>
      rw [Word.signed?_eq_some_iff.mp hn]
      rfl
    · rfl
  | _ => rfl

variable {kind : Kind} {chosen : Nat → Bool} {ps : List Parameter}

theorem length_wrapAt : (wrapAt kind chosen ps).length = ps.length := by
  simp [wrapAt]

theorem getD_wrapAt (i : Nat) :
    (wrapAt kind chosen ps).getD i omitted =
      if i ∈ kind.literalPlaces ∧ chosen i = true then (ps.getD i omitted).wrapped
      else ps.getD i omitted := by
  rw [wrapAt, List.getD_eq_getElem?_getD, List.getD_eq_getElem?_getD, List.getElem?_mapIdx]
  cases ps[i]? with
  | none => simp [wrapped]
  | some p => simp

theorem unwrapped_getD_wrapAt (i : Nat) :
    ((wrapAt kind chosen ps).getD i omitted).unwrapped = (ps.getD i omitted).unwrapped := by
  rw [getD_wrapAt]
  split_ifs
  · exact unwrapped_wrapped _
  · rfl

theorem getD_wrapAt_of_notMem {i : Nat} (h : i ∉ kind.literalPlaces) :
    (wrapAt kind chosen ps).getD i omitted = ps.getD i omitted := by
  rw [getD_wrapAt, if_neg fun hi => h hi.1]

theorem wrapAt_eq_self (h : kind.literalPlaces = []) : wrapAt kind chosen ps = ps := by
  simp only [wrapAt, h, List.not_mem_nil, false_and, if_false]
  exact mapIdx_id ps

/-! ## Reading literals -/

/-- The reader does not tell a plain value from the constant that holds it. -/
def ReadsLiteral {α : Type} (read : Parameter → Except Violation α) : Prop :=
  ∀ p q : Parameter, p.unwrapped = q.unwrapped → Alike Eq (read p) (read q)

theorem ReadsLiteral.bind {α β : Type} {read : Parameter → Except Violation α}
    (h : ReadsLiteral read) (f : α → Except Violation β) : ReadsLiteral fun p => read p >>= f := by
  intro p q hpq
  exact (h p q hpq).bind_eq fun a => .refl (f a)

/-- A reader that succeeds on the values of one form, plain or wrapped, reads literals. -/
theorem ReadsLiteral.of_form {α : Type} {read : Parameter → Except Violation α}
    (form : α → Parameter) (h : ∀ p a, read p = .ok a ↔ p.unwrapped = form a) :
    ReadsLiteral read := by
  intro p q hpq
  apply Alike.of_eq_ok_iff
  intro a
  rw [h p a, h q a, hpq]

namespace Slot

variable (s : Slot)

theorem readsLiteral_integer : ReadsLiteral s.integer := by
  apply ReadsLiteral.of_form .int
  intro p i
  refine ⟨unwrapped_of_integer, fun h => ?_⟩
  cases p with
  | int value =>
    cases h
    rfl
  | type t =>
    cases t <;> cases h
    rfl
  | _ => cases h

theorem readsLiteral_optionalInteger : ReadsLiteral s.optionalInteger := by
  apply ReadsLiteral.of_form fun i => i.elim .omitted .int
  intro p i
  refine ⟨unwrapped_of_optionalInteger, fun h => ?_⟩
  cases i <;> cases p with
  | type t => cases t <;> cases h <;> rfl
  | _ => cases h <;> rfl

theorem readsLiteral_optionalString : ReadsLiteral s.optionalString := by
  apply ReadsLiteral.of_form .ofString?
  intro p value
  refine ⟨unwrapped_of_optionalString, fun h => ?_⟩
  cases value <;> cases p with
  | type t => cases t <;> cases h <;> rfl
  | _ => cases h <;> rfl

theorem readsLiteral_optionalLength : ReadsLiteral s.optionalLength :=
  s.readsLiteral_optionalInteger.bind _

theorem readsLiteral_signed : ReadsLiteral s.signed := s.readsLiteral_integer.bind _

theorem readsLiteral_unsigned : ReadsLiteral s.unsigned := s.readsLiteral_integer.bind _

theorem readsLiteral_extent : ReadsLiteral s.extent := s.readsLiteral_integer.bind _

theorem readsLiteral_string : ReadsLiteral s.string := s.readsLiteral_optionalString.bind _

end Slot

theorem unwrapped_eq_omitted_iff {p : Parameter} : p.unwrapped = omitted ↔ p = omitted := by
  cases p with
  | type t => cases t <;> simp [unwrapped]
  | _ => simp [unwrapped]

/-- A string is moved to the place of the encoding in the same cases, plain or wrapped. -/
theorem unwrapped_lengthAndEncoding (p p' : Parameter) :
    (lengthAndEncoding p p').map unwrapped unwrapped =
      lengthAndEncoding p.unwrapped p'.unwrapped := by
  by_cases h : p' = omitted
  · subst h
    cases p with
    | type t => cases t <;> rfl
    | _ => rfl
  · have h' : p'.unwrapped ≠ omitted := mt unwrapped_eq_omitted_iff.mp h
    rw [lengthAndEncoding_of_ne h, lengthAndEncoding_of_ne h', Prod.map]

end Parameter

namespace Ty

open Parameter

theorem alike_buildString_of_unwrapped {p p' q q' : Parameter} (h : p.unwrapped = q.unwrapped)
    (h' : p'.unwrapped = q'.unwrapped) : Alike Eq (buildString p p') (buildString q q') := by
  have hparts : (lengthAndEncoding p p').map unwrapped unwrapped =
      (lengthAndEncoding q q').map unwrapped unwrapped := by
    rw [unwrapped_lengthAndEncoding, unwrapped_lengthAndEncoding, h, h']
  obtain ⟨hlength, hspelling⟩ := Prod.mk.inj hparts
  refine (Slot.readsLiteral_optionalLength _ _ _ hlength).bind_eq fun length => ?_
  exact (Slot.readsLiteral_optionalString _ _ _ hspelling).bind_eq fun spelling => .refl _

theorem alike_build_wrapAt (kind : Kind) (chosen : Nat → Bool) (ps : List Parameter) :
    Alike Eq (build kind (wrapAt kind chosen ps)) (build kind ps) := by
  -- Every place holds the same literal as before, and where none is asked for, the same parameter.
  have hliteral := @unwrapped_getD_wrapAt kind chosen ps
  have hother := @getD_wrapAt_of_notMem kind chosen ps
  cases kind with
  | null | date | bytes | json | var => exact .refl _
  | ellipsis | datashape | record | tuple | function | option =>
    rw [wrapAt_eq_self rfl]
    exact .refl _
  | time | datetime =>
    exact (Slot.readsLiteral_optionalString _ _ _ (hliteral 0)).bind_eq fun zone => .refl _
  | units =>
    refine (Slot.readsLiteral_string _ _ _ (hliteral 0)).bind_eq fun unit => ?_
    dsimp only
    rw [hother (i := 1) (by decide)]
    exact .refl _
  | string => exact alike_buildString_of_unwrapped (hliteral 0) (hliteral 1)
  | scalar =>
    refine (Slot.readsLiteral_string _ _ _ (hliteral 0)).bind_eq fun name => ?_
    refine (Slot.readsLiteral_unsigned _ _ _ (hliteral 1)).bind_eq fun size => ?_
    exact (Slot.readsLiteral_unsigned _ _ _ (hliteral 2)).bind_eq fun alignment => .refl _
  | intConst => exact (Slot.readsLiteral_signed _ _ _ (hliteral 0)).bind_eq fun value => .refl _
  | strConst => exact (Slot.readsLiteral_string _ _ _ (hliteral 0)).bind_eq fun value => .refl _
  | fixed => exact (Slot.readsLiteral_extent _ _ _ (hliteral 0)).bind_eq fun extent => .refl _
  | typeVar => exact (Slot.readsLiteral_string _ _ _ (hliteral 0)).bind_eq fun symbol => .refl _
  | implements =>
    dsimp only [build]
    rw [hother (i := 0) (by decide)]
    refine (Alike.refl _).bind_eq fun symbol => ?_
    exact (Slot.readsLiteral_string _ _ _ (hliteral 1)).bind_eq fun typeset => .refl _

/-- Whatever plain values in places for literals are given as the constant types that hold
them, building from the parameters fails as before or gives the same type as before. -/
theorem ofParameters_wrapAt (kind : Kind) (chosen : Nat → Bool) (ps : List Parameter) :
    Alike Eq (ofParameters kind (wrapAt kind chosen ps)) (ofParameters kind ps) := by
  rw [ofParameters_eq, ofParameters_eq, length_wrapAt]
  exact (alike_build_wrapAt kind chosen ps).bind_eq fun t => .refl _

/-- A lone encoding, wrapped. -/
example : wrapAt .string (fun _ => true) [.str "ascii"] = [.type (strConst "ascii")] ∧
    ofParameters .string [.type (strConst "ascii")] = .ok (string none .ascii) :=
  ⟨rfl, rfl⟩

end Ty

end ShapeAlgebra
