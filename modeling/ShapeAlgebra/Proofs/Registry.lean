import ShapeAlgebra.Proofs.Ty.Parts
import ShapeAlgebra.Registry

/-!
# Entries of registries

An entry is either there from the start or registered, and it never changes. So a registry
that starts with the built-in types keeps them, and one filled with well-formed types holds
well-formed types only.
-/
namespace ShapeAlgebra.Registry

variable {r : Registry} {name : String} {t : Ty}

theorem get?_insert (r : Registry) (name : String) (t : Ty) (n : String) :
    (r.insert name t).get? n = if name = n then some t else r.get? n := by
  simp [get?, insert, Std.HashMap.getElem?_insert]

theorem contains_eq_isSome (r : Registry) (name : String) :
    r.contains name = (r.get? name).isSome := by
  rw [contains, Std.HashMap.contains_eq_isSome_getElem?, get?, Std.HashMap.get?_eq_getElem?]

theorem lookup_eq_ok_iff : r.lookup name = .ok t ↔ r.get? name = some t := by
  unfold lookup
  cases r.get? name <;> simp

/-! ## What registering leaves -/

theorem register_of_taken (h : (r.get? name).isSome = true) (t : Ty) :
    r.register name t = (.error (.nameCollision name), r) := by
  rw [register, contains_eq_isSome, if_pos h]

theorem register_of_free (h : r.get? name = none) (t : Ty) :
    r.register name t = (.ok (), r.insert name t) := by
  rw [register, contains_eq_isSome, h]
  rfl

/-- Registering leaves every name that has a type alone, and may give a type to one other. -/
theorem get?_register (r : Registry) (name : String) (t : Ty) (n : String) :
    (r.register name t).2.get? n = (r.get? n).or (if name = n then some t else none) := by
  cases hname : r.get? name with
  | some u =>
    rw [register_of_taken (by rw [hname]; rfl)]
    split_ifs with heq
    · rw [← heq, hname, Option.some_or]
    · rw [Option.or_none]
  | none =>
    rw [register_of_free hname, get?_insert]
    split_ifs with heq
    · rw [← heq, hname, Option.none_or]
    · rw [Option.or_none]

theorem registerNamed_eq (r : Registry) (t : Ty) :
    r.registerNamed t = (.error (.anonymous t), r) ∨
      ∃ name, r.registerNamed t = r.register name t := by
  unfold registerNamed
  split
  · exact .inr ⟨_, rfl⟩
  · exact .inl rfl

/-! ## Built-in types -/

theorem builtinEntries_distinct :
    builtinEntries.Pairwise fun a b => (a.1 == b.1) = false := by
  decide +kernel

theorem builtin_get? (h : (name, t) ∈ builtinEntries) : builtin.get? name = some t := by
  rw [get?, Std.HashMap.get?_eq_getElem?]
  exact Std.HashMap.getElem?_ofList_of_mem BEq.rfl builtinEntries_distinct h

theorem builtin_get?_scalar {s : Scalar} (h : s ∈ Scalar.builtin) :
    builtin.get? s.name = some (.scalar s) :=
  builtin_get? (List.mem_append_left _ (List.mem_append_left _ (List.mem_map_of_mem h)))

theorem builtin_get?_eq_none (h : name ∉ builtinEntries.map Prod.fst) :
    builtin.get? name = none := by
  rw [get?, Std.HashMap.get?_eq_getElem?]
  exact Std.HashMap.getElem?_ofList_of_contains_eq_false (by simpa using h)

theorem mem_builtinEntries_of_get? (h : builtin.get? name = some t) :
    (name, t) ∈ builtinEntries := by
  have hname : name ∈ builtinEntries.map Prod.fst := by
    by_contra hnot
    rw [builtin_get?_eq_none hnot] at h
    cases h
  obtain ⟨⟨_, u⟩, hmem, rfl⟩ := List.mem_map.mp hname
  obtain rfl := Option.some.inj ((builtin_get? hmem).symm.trans h)
  exact hmem

/-- The registry has the built-in types under their names. -/
def Seeded (r : Registry) : Prop :=
  ∀ name t, builtin.get? name = some t → r.get? name = some t

theorem builtin_seeded : builtin.Seeded := fun _ _ h => h

/-! ## Well-formed entries -/

/-- Every entry is well formed. -/
def Sound (r : Registry) : Prop := ∀ name t, r.get? name = some t → t.WellFormed

theorem empty_sound : empty.Sound := by
  intro name t h
  simp [get?, empty] at h

theorem builtin_sound : builtin.Sound := by
  have hentries : ∀ e ∈ builtinEntries, e.2.WellFormed := by decide
  intro name t h
  exact hentries _ (mem_builtinEntries_of_get? h)

theorem Sound.register (hr : r.Sound) (ht : t.WellFormed) (name : String) :
    (r.register name t).2.Sound := by
  intro n u hu
  rw [get?_register, Option.or_eq_some_iff] at hu
  rcases hu with hu | ⟨-, hu⟩
  · exact hr n u hu
  · split_ifs at hu
    obtain rfl := Option.some.inj hu
    exact ht

theorem Sound.registerNamed (hr : r.Sound) (ht : t.WellFormed) : (r.registerNamed t).2.Sound := by
  rcases r.registerNamed_eq t with h | ⟨name, h⟩
  · rwa [h]
  · rw [h]
    exact hr.register ht name

end ShapeAlgebra.Registry
