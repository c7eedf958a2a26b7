import ShapeAlgebra.Proofs.Parameter.Places
import ShapeAlgebra.Proofs.Ty.Make

/-!
# Types built from parameters

Every type that stands in a slot comes from the parameters, and every symbol is checked or
comes from a type variable among them. So well-formed types in the parameters make a
well-formed type.
-/
namespace ShapeAlgebra

namespace Parameter

def held : Parameter → List Ty
  | type t => [t]
  | types ts => ts
  | fields fs => fs.map Prod.snd
  | _ => []

theorem mem_held_getD {ps : List Parameter} {i : Nat} {t : Ty}
    (h : t ∈ (ps.getD i omitted).held) : ∃ p ∈ ps, t ∈ p.held := by
  rw [List.getD_eq_getElem?_getD] at h
  cases hp : ps[i]? with
  | none =>
    rw [hp] at h
    cases h
  | some p =>
    rw [hp] at h
    exact ⟨p, List.mem_of_getElem? hp, h⟩

namespace Slot

variable {s : Slot} {p : Parameter}

theorem mem_held_of_optionalType {t : Ty} (h : s.optionalType p = .ok (some t)) : t ∈ p.held := by
  cases p <;> cases h
  exact List.mem_singleton_self t

theorem mem_held_of_type {t : Ty} (h : s.type p = .ok t) : t ∈ p.held := by
  obtain ⟨found, hfound, h⟩ := bind_eq_ok_iff.mp h
  cases found with
  | none => cases h
  | some u =>
    obtain rfl := Except.ok.inj h
    exact mem_held_of_optionalType hfound

theorem mem_held_of_types {ts : List Ty} (h : s.types p = .ok ts) {t : Ty} (ht : t ∈ ts) :
    t ∈ p.held := by
  cases p <;> cases h
  exact ht

theorem mem_held_of_fields {fs : List (String × Ty)} (h : s.fields p = .ok fs)
    {f : String × Ty} (hf : f ∈ fs) : f.2 ∈ p.held := by
  cases p <;> cases h
  · cases hf
  · exact List.mem_map_of_mem hf

theorem mem_held_of_eachType {ps : List Parameter} {ts : List Ty} (h : s.eachType ps = .ok ts)
    {t : Ty} (ht : t ∈ ts) : ∃ p ∈ ps, t ∈ p.held := by
  induction ps generalizing ts with
  | nil =>
    cases h
    cases ht
  | cons p ps ih =>
    cases p with
    | type u =>
      obtain ⟨us, hus, rfl⟩ := map_eq_ok_iff.mp h
      rcases List.mem_cons.mp ht with rfl | ht
      · exact ⟨_, List.mem_cons_self, List.mem_cons_self⟩
      · obtain ⟨p, hp, htp⟩ := ih hus ht
        exact ⟨p, List.mem_cons_of_mem _ hp, htp⟩
    | _ => cases h

/-- A symbol is one of a type variable among the parameters, or it is checked. -/
theorem isValid_of_optionalSymbol (hp : ∀ t ∈ p.held, t.WellFormed) {symbol : String}
    (h : s.optionalSymbol p = .ok (some symbol)) : Symbol.isValid symbol = true := by
  unfold optionalSymbol at h
  split at h
  · cases h
  · cases h
    exact hp _ List.mem_cons_self
  · obtain ⟨found, hfound, heq⟩ := map_eq_ok_iff.mp h
    obtain ⟨hvalid, rfl⟩ := Ty.symbolParse_eq_ok_iff.mp hfound
    exact Option.some.inj heq ▸ hvalid
  · cases h

theorem isValid_of_symbol (hp : ∀ t ∈ p.held, t.WellFormed) {symbol : String}
    (h : s.symbol p = .ok symbol) : Symbol.isValid symbol = true := by
  obtain ⟨found, hfound, h⟩ := bind_eq_ok_iff.mp h
  cases found with
  | none => cases h
  | some u =>
    obtain rfl := Except.ok.inj h
    exact isValid_of_optionalSymbol hp hfound

end Slot

end Parameter

namespace Ty

open Parameter

theorem wellFormed_of_build {kind : Kind} {ps : List Parameter}
    (hps : ∀ p ∈ ps, ∀ u ∈ p.held, WellFormed u) {t : Ty} (h : build kind ps = .ok t) :
    WellFormed t := by
  have harg : ∀ i, ∀ u ∈ (ps.getD i .omitted).held, WellFormed u := by
    intro i u hu
    obtain ⟨p, hp, hu⟩ := mem_held_getD hu
    exact hps p hp u hu
  have heach : ∀ {slot : Slot} {ts}, slot.eachType ps = .ok ts → ∀ u ∈ ts, WellFormed u := by
    intro slot ts hts u hu
    obtain ⟨p, hp, hu⟩ := Slot.mem_held_of_eachType hts hu
    exact hps p hp u hu
  cases kind with
  | null | date | bytes | json | var =>
    obtain rfl := Except.ok.inj h
    exact trivial
  | time | datetime | intConst | strConst | fixed =>
    obtain ⟨value, -, h⟩ := bind_eq_ok_iff.mp h
    obtain rfl := Except.ok.inj h
    exact trivial
  | string =>
    obtain ⟨length, -, h⟩ := bind_eq_ok_iff.mp h
    obtain ⟨spelling, -, h⟩ := bind_eq_ok_iff.mp h
    exact wellFormed_of_makeString h
  | scalar =>
    obtain ⟨name, -, h⟩ := bind_eq_ok_iff.mp h
    obtain ⟨size, -, h⟩ := bind_eq_ok_iff.mp h
    obtain ⟨alignment, -, h⟩ := bind_eq_ok_iff.mp h
    obtain rfl := Except.ok.inj h
    exact trivial
  | units =>
    obtain ⟨unit, -, h⟩ := bind_eq_ok_iff.mp h
    obtain ⟨value, hvalue, h⟩ := bind_eq_ok_iff.mp h
    refine wellFormed_of_makeUnits (fun v hv => ?_) h
    obtain rfl := Option.mem_def.mp hv
    exact harg 1 v (Slot.mem_held_of_optionalType hvalue)
  | typeVar =>
    obtain ⟨symbol, -, h⟩ := bind_eq_ok_iff.mp h
    exact wellFormed_of_makeTypeVar h
  | ellipsis =>
    obtain ⟨symbol, hsymbol, h⟩ := bind_eq_ok_iff.mp h
    obtain rfl := Except.ok.inj h
    cases symbol with
    | none => exact trivial
    | some symbol => exact Slot.isValid_of_optionalSymbol (harg 0) hsymbol
  | implements =>
    obtain ⟨symbol, hsymbol, h⟩ := bind_eq_ok_iff.mp h
    obtain ⟨typeset, -, h⟩ := bind_eq_ok_iff.mp h
    obtain rfl := Except.ok.inj h
    exact Slot.isValid_of_symbol (harg 0) hsymbol
  | datashape =>
    obtain ⟨params, hparams, h⟩ := bind_eq_ok_iff.mp h
    exact wellFormed_of_makeDatashape (heach hparams) h
  | function =>
    obtain ⟨params, hparams, h⟩ := bind_eq_ok_iff.mp h
    exact wellFormed_of_makeFunction (heach hparams) h
  | record =>
    obtain ⟨fields, hfields, h⟩ := bind_eq_ok_iff.mp h
    exact wellFormed_of_makeRecord (fun f hf => harg 0 _ (Slot.mem_held_of_fields hfields hf)) h
  | tuple =>
    obtain ⟨members, hmembers, h⟩ := bind_eq_ok_iff.mp h
    exact wellFormed_of_makeTuple (fun m hm => harg 0 _ (Slot.mem_held_of_types hmembers hm)) h
  | option =>
    obtain ⟨value, hvalue, h⟩ := bind_eq_ok_iff.mp h
    exact wellFormed_of_makeOption (harg 0 _ (Slot.mem_held_of_type hvalue)) h

theorem wellFormed_of_ofParameters {kind : Kind} {ps : List Parameter}
    (hps : ∀ p ∈ ps, ∀ u ∈ p.held, WellFormed u) {t : Ty} (h : ofParameters kind ps = .ok t) :
    WellFormed t :=
  wellFormed_of_build hps (build_of_ofParameters h).1

end Ty

end ShapeAlgebra
