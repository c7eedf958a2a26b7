import ShapeAlgebra.Proofs.Parameter.Build
import ShapeAlgebra.Proofs.Ty.Congruence

/-!
# Equality is a congruence

Types built from equal parameters are equal. A slot reads plain values from literals only,
and of literals equality sees everything; in all other places types go into the result as
they are, where equality does not tell them from equal ones. Together with what equal types
have in common, no observation and no construction depends on what equality leaves out.
-/
namespace ShapeAlgebra

open Ty (Equal SameField)

namespace Parameter

/-- Equality of parameters, sort by sort. -/
inductive Same : Parameter → Parameter → Prop
  | omitted : Same omitted omitted
  | int (value : Int) : Same (int value) (int value)
  | str (value : String) : Same (str value) (str value)
  | type {t u} (h : Equal t u) : Same (type t) (type u)
  | types {ts us} (h : List.Forall₂ Equal ts us) : Same (types ts) (types us)
  | fields {fs gs} (h : List.Forall₂ SameField fs gs) : Same (fields fs) (fields gs)

theorem forall₂_of_beq {α : Type} [BEq α] {xs ys : List α} (h : (xs == ys) = true) :
    List.Forall₂ (fun x y => (x == y) = true) xs ys := by
  induction xs generalizing ys with
  | nil =>
    cases ys with
    | nil => exact .nil
    | cons y ys => cases h
  | cons x xs ih =>
    cases ys with
    | nil => cases h
    | cons y ys =>
      rw [List.cons_beq_cons, Bool.and_eq_true] at h
      exact .cons h.1 (ih h.2)

theorem same_of_beq {p q : Parameter} (h : (p == q) = true) : Same p q := by
  cases p <;> cases q <;> try cases h
  case omitted.omitted => exact .omitted
  case int.int m n =>
    obtain rfl : m = n := eq_of_beq h
    exact .int m
  case str.str s s' =>
    obtain rfl : s = s' := eq_of_beq h
    exact .str s
  case type.type t u => exact .type h
  case types.types ts us => exact .types (forall₂_of_beq h)
  case fields.fields fs gs =>
    refine .fields ((forall₂_of_beq h).imp fun f g hfg => ?_)
    obtain ⟨hname, htype⟩ := Bool.and_eq_true_iff.mp hfg
    exact ⟨eq_of_beq hname, htype⟩

theorem same_getD {ps qs : List Parameter} (h : List.Forall₂ Same ps qs) (i : Nat) :
    Same (ps.getD i omitted) (qs.getD i omitted) := by
  induction h generalizing i with
  | nil => exact .omitted
  | cons hpq _ ih =>
    cases i with
    | zero => exact hpq
    | succ i => exact ih i

theorem lengthAndEncoding_of_ne {p p' : Parameter} (h : p' ≠ omitted) :
    lengthAndEncoding p p' = (p, p') := by
  unfold lengthAndEncoding
  split
  · exact absurd rfl h
  · exact absurd rfl h
  · rfl

theorem lengthAndEncoding_type {t : Ty} (h : t.kind ≠ .strConst) :
    lengthAndEncoding (type t) omitted = (type t, omitted) := by
  cases t with
  | strConst value => exact absurd rfl h
  | _ => rfl

/-- A lone string is taken for the encoding on both sides or on neither. -/
theorem same_lengthAndEncoding {p q p' q' : Parameter} (h : Same p q) (h' : Same p' q') :
    Same (lengthAndEncoding p p').1 (lengthAndEncoding q q').1 ∧
      Same (lengthAndEncoding p p').2 (lengthAndEncoding q q').2 := by
  by_cases homitted : p' = omitted
  · subst homitted
    cases h'
    cases h with
    | omitted => exact ⟨.omitted, .omitted⟩
    | int value => exact ⟨.int value, .omitted⟩
    | str value => exact ⟨.omitted, .str value⟩
    | types h => exact ⟨.types h, .omitted⟩
    | fields h => exact ⟨.fields h, .omitted⟩
    | @type t u h =>
      have hkind := Ty.kind_eq_of_equal h
      by_cases hk : t.kind = .strConst
      · cases t with
        | strConst value =>
          obtain rfl := h.eq_of_isLiteral rfl
          exact ⟨.omitted, .type h⟩
        | _ => cases hk
      · rw [lengthAndEncoding_type hk, lengthAndEncoding_type (hkind ▸ hk)]
        exact ⟨.type h, .omitted⟩
  · have homitted' : q' ≠ omitted := by
      rintro rfl
      cases h'
      exact homitted rfl
    rw [lengthAndEncoding_of_ne homitted, lengthAndEncoding_of_ne homitted']
    exact ⟨h, h'⟩

/-! ## Plain values -/

/-- A reader of plain values. Of types it takes literals only. -/
structure Plain {α : Type} (read : Parameter → Except Violation α) : Prop where
  type : ∀ t : Ty, t.isLiteral = false → ∃ e, read (.type t) = .error e
  types : ∀ ts, ∃ e, read (.types ts) = .error e
  fields : ∀ fs, ∃ e, read (.fields fs) = .error e

namespace Plain

variable {α β : Type} {read : Parameter → Except Violation α} {p q : Parameter}

theorem alike (hr : Plain read) (h : Same p q) : Alike Eq (read p) (read q) := by
  cases h with
  | type h => exact h.alike_of_isLiteral hr.type hr.type fun t _ => .refl (read (.type t))
  | @types ts us h =>
    obtain ⟨e, he⟩ := hr.types ts
    obtain ⟨e', he'⟩ := hr.types us
    rw [he, he']
    exact .error e e'
  | @fields fs gs h =>
    obtain ⟨e, he⟩ := hr.fields fs
    obtain ⟨e', he'⟩ := hr.fields gs
    rw [he, he']
    exact .error e e'
  | _ => exact .refl _

/-- What a reader of plain values reads may be checked further. -/
theorem bind (hr : Plain read) (f : α → Except Violation β) :
    Plain fun p => read p >>= f := by
  have hfail : ∀ p, (∃ e, read p = .error e) → ∃ e, (read p >>= f) = .error e := by
    rintro p ⟨e, he⟩
    exact ⟨e, bind_eq_error_iff.mpr (.inl he)⟩
  exact ⟨fun t ht => hfail _ (hr.type t ht), fun ts => hfail _ (hr.types ts),
    fun fs => hfail _ (hr.fields fs)⟩

end Plain

namespace Slot

variable (s : Slot) {p q : Parameter}

theorem plain_integer : Plain s.integer := by
  refine ⟨fun t ht => ?_, fun ts => ⟨_, rfl⟩, fun fs => ⟨_, rfl⟩⟩
  cases t with
  | intConst value => cases ht
  | _ => exact ⟨_, rfl⟩

theorem plain_optionalInteger : Plain s.optionalInteger := by
  refine ⟨fun t ht => ?_, fun ts => ⟨_, rfl⟩, fun fs => ⟨_, rfl⟩⟩
  cases t with
  | intConst value => cases ht
  | _ => exact ⟨_, rfl⟩

theorem plain_optionalString : Plain s.optionalString := by
  refine ⟨fun t ht => ?_, fun ts => ⟨_, rfl⟩, fun fs => ⟨_, rfl⟩⟩
  cases t with
  | strConst value => cases ht
  | _ => exact ⟨_, rfl⟩

theorem plain_optionalSymbol : Plain s.optionalSymbol := by
  refine ⟨fun t ht => ?_, fun ts => ⟨_, rfl⟩, fun fs => ⟨_, rfl⟩⟩
  cases t with
  | typeVar symbol => cases ht
  | _ => exact ⟨_, rfl⟩

theorem plain_optionalLength : Plain s.optionalLength := s.plain_optionalInteger.bind _

theorem plain_signed : Plain s.signed := s.plain_integer.bind _

theorem plain_unsigned : Plain s.unsigned := s.plain_integer.bind _

theorem plain_extent : Plain s.extent := s.plain_integer.bind _

theorem plain_string : Plain s.string := s.plain_optionalString.bind _

theorem plain_symbol : Plain s.symbol := s.plain_optionalSymbol.bind _

/-! ## Types -/

theorem alike_optionalType (h : Same p q) :
    Alike (Option.Rel Equal) (s.optionalType p) (s.optionalType q) := by
  cases h with
  | omitted => exact .ok .none
  | type h => exact .ok (.some h)
  | _ => exact .error _ _

theorem alike_type (h : Same p q) : Alike Equal (s.type p) (s.type q) := by
  refine (s.alike_optionalType h).bind fun t? u? htu => ?_
  cases htu with
  | none => exact .error _ _
  | some h => exact .ok h

theorem alike_types (h : Same p q) : Alike (List.Forall₂ Equal) (s.types p) (s.types q) := by
  cases h with
  | types h => exact .ok h
  | _ => exact .error _ _

theorem alike_fields (h : Same p q) :
    Alike (List.Forall₂ SameField) (s.fields p) (s.fields q) := by
  cases h with
  | omitted => exact .ok .nil
  | fields h => exact .ok h
  | _ => exact .error _ _

theorem alike_eachType {ps qs : List Parameter} (h : List.Forall₂ Same ps qs) :
    Alike (List.Forall₂ Equal) (s.eachType ps) (s.eachType qs) := by
  induction h with
  | nil => exact .ok .nil
  | cons hpq _ ih =>
    cases hpq with
    | type h => exact ih.map fun ts us hts => .cons h hts
    | _ => exact .error _ _

end Slot

end Parameter

namespace Ty

open Parameter

theorem alike_makeString (length : Option UInt64) (spelling : Option String) :
    Alike Equal (makeString length spelling) (makeString length spelling) := by
  cases spelling with
  | none => exact .ok (equal_self rfl)
  | some spelling =>
    refine (Alike.refl (Encoding.parse spelling)).map ?_
    rintro encoding _ rfl
    exact equal_self rfl

theorem alike_buildString {p q p' q' : Parameter} (h : Same p q) (h' : Same p' q') :
    Alike Equal (buildString p p') (buildString q q') := by
  obtain ⟨hlength, hspelling⟩ := same_lengthAndEncoding h h'
  refine ((Slot.plain_optionalLength _).alike hlength).bind ?_
  rintro length _ rfl
  refine ((Slot.plain_optionalString _).alike hspelling).bind ?_
  rintro spelling _ rfl
  exact alike_makeString length spelling

theorem alike_build_of_ne_record {kind : Kind} (hk : kind ≠ .record) {ps qs : List Parameter}
    (h : List.Forall₂ Same ps qs) : Alike Equal (build kind ps) (build kind qs) := by
  have harg := same_getD h
  cases kind with
  | null | date | bytes | json | var => exact .ok (equal_self rfl)
  | time | datetime =>
    refine ((Slot.plain_optionalString _).alike (harg 0)).bind ?_
    rintro zone _ rfl
    exact .ok (equal_self rfl)
  | units =>
    refine ((Slot.plain_string _).alike (harg 0)).bind ?_
    rintro unit _ rfl
    refine (Slot.alike_optionalType _ (harg 1)).bind fun value value' hvalue => ?_
    exact alike_makeUnits hvalue unit
  | string => exact alike_buildString (harg 0) (harg 1)
  | scalar =>
    refine ((Slot.plain_string _).alike (harg 0)).bind ?_
    rintro name _ rfl
    refine ((Slot.plain_unsigned _).alike (harg 1)).bind ?_
    rintro size _ rfl
    refine ((Slot.plain_unsigned _).alike (harg 2)).bind ?_
    rintro alignment _ rfl
    exact .ok (equal_self rfl)
  | intConst =>
    refine ((Slot.plain_signed _).alike (harg 0)).bind ?_
    rintro value _ rfl
    exact .ok (equal_self rfl)
  | strConst =>
    refine ((Slot.plain_string _).alike (harg 0)).bind ?_
    rintro value _ rfl
    exact .ok (equal_self rfl)
  | fixed =>
    refine ((Slot.plain_extent _).alike (harg 0)).bind ?_
    rintro extent _ rfl
    exact .ok (equal_self rfl)
  | typeVar =>
    refine ((Slot.plain_string _).alike (harg 0)).bind ?_
    rintro symbol _ rfl
    refine (Alike.refl (Symbol.parse symbol)).map ?_
    rintro symbol _ rfl
    exact equal_self rfl
  | ellipsis =>
    refine ((Slot.plain_optionalSymbol _).alike (harg 0)).bind ?_
    rintro symbol _ rfl
    exact .ok (equal_self rfl)
  | datashape =>
    refine (Slot.alike_eachType _ h).bind fun params params' hparams => ?_
    exact alike_makeDatashape hparams
  | record => exact absurd rfl hk
  | tuple =>
    refine (Slot.alike_types _ (harg 0)).bind fun members members' hmembers => ?_
    exact alike_makeTuple hmembers
  | function =>
    refine (Slot.alike_eachType _ h).bind fun params params' hparams => ?_
    exact alike_makeFunction hparams
  | option =>
    refine (Slot.alike_type _ (harg 0)).bind fun value value' hvalue => ?_
    exact alike_makeOption hvalue
  | implements =>
    refine ((Slot.plain_symbol _).alike (harg 0)).bind ?_
    rintro symbol _ rfl
    refine ((Slot.plain_string _).alike (harg 1)).bind ?_
    rintro typeset _ rfl
    exact .ok (equal_self rfl)

theorem alike_build (kind : Kind) {ps qs : List Parameter} (h : List.Forall₂ Same ps qs) :
    Alike EqualIfWellFormed (build kind ps) (build kind qs) := by
  by_cases hk : kind = .record
  · subst hk
    refine (Slot.alike_fields _ (same_getD h 0)).bind fun fields fields' hfields => ?_
    exact alike_makeRecord hfields
  · exact (alike_build_of_ne_record hk h).imp fun t u htu _ _ => htu

theorem alike_ofParameters (kind : Kind) {ps qs : List Parameter} (h : List.Forall₂ Same ps qs) :
    Alike EqualIfWellFormed (ofParameters kind ps) (ofParameters kind qs) := by
  rw [ofParameters_eq, ofParameters_eq, h.length_eq]
  refine (alike_build kind h).bind fun t u htu => ?_
  dsimp only
  split_ifs
  · exact .error _ _
  · exact .ok htu

/-- No observation tells equal well-formed types apart, and what is computed from them is
equal. Types of a kind are built from equal parameters together, if at all, and are equal,
given that the types in the parameters are well formed. -/
theorem equal_congruence :
    (∀ a b : Ty, WellFormed a → WellFormed b → (a == b) = true → Indistinct a b) ∧
      ∀ (kind : Kind) (ps qs : List Parameter),
        List.Forall₂ (fun p q => (p == q) = true) ps qs →
          Alike (fun t u => (∀ p ∈ ps, ∀ v ∈ p.held, WellFormed v) →
              (∀ q ∈ qs, ∀ v ∈ q.held, WellFormed v) → (t == u) = true)
            (ofParameters kind ps) (ofParameters kind qs) := by
  constructor
  · intro a b ha hb h
    exact Equal.indistinct ha hb h
  · intro kind ps qs h
    have halike := alike_ofParameters kind (h.imp fun p q => same_of_beq)
    apply halike.attach.imp
    rintro t u ⟨ht, hu, htu⟩ hps hqs
    exact htu (wellFormed_of_ofParameters hps ht) (wellFormed_of_ofParameters hqs hu)

/-- A named table of two open columns. -/
def openTable : Ty :=
  datashape [fixed 3, typeVar "N",
    record [("x", typeVar "A"), ("y", datashape [var, typeVar "B"] none)]] (some "Table")

/-- The same table without its name, the columns the other way round. -/
def turnedTable : Ty :=
  datashape [fixed 3, typeVar "N",
    record [("y", datashape [var, typeVar "B"] none), ("x", typeVar "A")]] none

theorem equal_congruence_openTable :
    WellFormed openTable ∧ WellFormed turnedTable ∧ (openTable == turnedTable) = true ∧
      Indistinct openTable turnedTable ∧
      openTable.freeVariables = ["N", "A", "B"] ∧ turnedTable.freeVariables = ["N", "B", "A"] ∧
      ∃ t u, ofParameters .record [.fields [("rows", openTable), ("n", json)]] = .ok t ∧
        ofParameters .record [.fields [("rows", turnedTable), ("n", json)]] = .ok u ∧
        (t == u) = true := by
  have hopen : WellFormed openTable := by decide
  have hturned : WellFormed turnedTable := by decide
  have hequal : (openTable == turnedTable) = true := by decide +kernel
  obtain ⟨hobserve, hbuild⟩ := equal_congruence
  refine ⟨hopen, hturned, hequal, hobserve _ _ hopen hturned hequal, rfl, rfl, _, _, rfl, rfl, ?_⟩
  exact (hbuild .record [.fields [("rows", openTable), ("n", json)]]
    [.fields [("rows", turnedTable), ("n", json)]] (.cons (by decide +kernel) .nil)).rel rfl rfl
    (by decide) (by decide)

end Ty

end ShapeAlgebra
