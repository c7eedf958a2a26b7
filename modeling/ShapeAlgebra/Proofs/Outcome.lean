import Mathlib.Data.List.Forall2

/-!
# Outcomes of checked computations

When a computation that may fail succeeds, and with what.
-/
namespace ShapeAlgebra

variable {ε α β : Type}

theorem map_eq_ok_iff {x : Except ε α} {f : α → β} {b : β} :
    x.map f = .ok b ↔ ∃ a, x = .ok a ∧ f a = b := by
  cases x <;> simp [Except.map]

theorem map_eq_error_iff {x : Except ε α} {f : α → β} {e : ε} :
    x.map f = .error e ↔ x = .error e := by
  cases x <;> simp [Except.map]

theorem mapError_eq_ok_iff {ε' : Type} {x : Except ε α} {f : ε → ε'} {a : α} :
    x.mapError f = .ok a ↔ x = .ok a := by
  cases x <;> simp [Except.mapError]

theorem map_const_eq_ok_iff {x : Except ε Unit} {a b : α} :
    (x.map fun _ => a) = .ok b ↔ x = .ok () ∧ b = a := by
  cases x <;> simp [Except.map, eq_comm]

theorem guard_eq_ok_iff {c : Prop} [Decidable c] {a b : α} {e : ε} :
    (if c then Except.ok a else Except.error e) = .ok b ↔ c ∧ b = a := by
  split_ifs with h <;> simp [h, eq_comm]

theorem bind_eq_ok_iff {x : Except ε α} {f : α → Except ε β} {b : β} :
    (x >>= f) = .ok b ↔ ∃ a, x = .ok a ∧ f a = .ok b := by
  cases x <;> simp [bind, Except.bind]

theorem mapM_eq_ok_iff {f : α → Except ε β} {xs : List α} {ys : List β} :
    xs.mapM f = .ok ys ↔ List.Forall₂ (fun x y => f x = .ok y) xs ys := by
  induction xs generalizing ys with
  | nil =>
    rw [List.mapM_nil, List.forall₂_nil_left_iff]
    exact ⟨fun h => (Except.ok.inj h).symm, fun h => h ▸ rfl⟩
  | cons x xs ih =>
    rw [List.mapM_cons, bind_eq_ok_iff, List.forall₂_cons_left_iff]
    constructor
    · rintro ⟨y, hy, h⟩
      obtain ⟨ys', hys, h⟩ := bind_eq_ok_iff.mp h
      exact ⟨y, ys', hy, ih.mp hys, (Except.ok.inj h).symm⟩
    · rintro ⟨y, ys', hy, hys, rfl⟩
      exact ⟨y, hy, bind_eq_ok_iff.mpr ⟨ys', ih.mpr hys, rfl⟩⟩

theorem bind_eq_error_iff {x : Except ε α} {f : α → Except ε β} {e : ε} :
    (x >>= f) = .error e ↔ x = .error e ∨ ∃ a, x = .ok a ∧ f a = .error e := by
  cases x <;> simp [bind, Except.bind]

/-- A traversal that fails does so at the first member that fails. -/
theorem exists_first_error {f : α → Except ε β} {xs : List α} {e : ε}
    (h : xs.mapM f = .error e) : ∃ before x after, xs = before ++ x :: after ∧
      (∀ y ∈ before, ∃ z, f y = .ok z) ∧ f x = .error e := by
  induction xs with
  | nil => cases h
  | cons a xs ih =>
    rw [List.mapM_cons] at h
    rcases bind_eq_error_iff.mp h with ha | ⟨b, ha, h⟩
    · exact ⟨[], a, xs, rfl, List.forall_mem_nil _, ha⟩
    rcases bind_eq_error_iff.mp h with h | ⟨bs, -, h⟩
    · obtain ⟨before, x, after, rfl, hbefore, hx⟩ := ih h
      exact ⟨a :: before, x, after, rfl, List.forall_mem_cons.mpr ⟨⟨b, ha⟩, hbefore⟩, hx⟩
    · cases h

theorem exists_ok_of_mem {f : α → Except ε β} {xs : List α} {ys : List β}
    (h : xs.mapM f = .ok ys) {x : α} (hx : x ∈ xs) : ∃ y, f x = .ok y := by
  rw [mapM_eq_ok_iff] at h
  induction h with
  | nil => cases hx
  | cons hy _ ih =>
    rcases List.mem_cons.mp hx with rfl | hx
    · exact ⟨_, hy⟩
    · exact ih hx

theorem exists_of_mem_ok {f : α → Except ε β} {xs : List α} {ys : List β}
    (h : xs.mapM f = .ok ys) {y : β} (hy : y ∈ ys) : ∃ x ∈ xs, f x = .ok y := by
  rw [mapM_eq_ok_iff] at h
  induction h with
  | nil => cases hy
  | cons hx _ ih =>
    rcases List.mem_cons.mp hy with rfl | hy
    · exact ⟨_, List.mem_cons_self, hx⟩
    · obtain ⟨x, hmem, hx⟩ := ih hy
      exact ⟨x, List.mem_cons_of_mem _ hmem, hx⟩

/-! ## First faults -/

/-- The computation fails with the first fault found among the items, and succeeds if none
of them has a fault. -/
def Reports {ι : Type} (fault : ι → Option ε) (items : List ι) (x : Except ε α) : Prop :=
  match items.findSome? fault with
  | none => ∃ a, x = .ok a
  | some e => x = .error e

namespace Reports

variable {ι : Type} {fault : ι → Option ε} {items items' : List ι} {x : Except ε α}

theorem ok (a : α) : Reports fault [] (.ok a : Except ε α) := ⟨a, rfl⟩

theorem cons_none {i : ι} (h : fault i = none) (hx : Reports fault items x) :
    Reports fault (i :: items) x := by
  unfold Reports at *
  rwa [List.findSome?_cons_of_isNone (by rw [h]; rfl)]

theorem cons_some {i : ι} {e : ε} (h : fault i = some e) :
    Reports fault (i :: items) (.error e : Except ε α) := by
  simp [Reports, h]

theorem of_none {i : ι} (h : fault i = none) (a : α) :
    Reports fault [i] (.ok a : Except ε α) :=
  cons_none h (ok a)

theorem of_some {i : ι} {e : ε} (h : fault i = some e) :
    Reports fault [i] (.error e : Except ε α) :=
  cons_some h

theorem eq_error_iff (h : Reports fault items x) {e : ε} :
    x = .error e ↔ items.findSome? fault = some e := by
  unfold Reports at h
  cases hfound : items.findSome? fault with
  | none =>
    rw [hfound] at h
    obtain ⟨a, rfl⟩ := h
    simp
  | some e' =>
    rw [hfound] at h
    subst h
    simp

theorem isOk_iff (h : Reports fault items x) :
    (∃ a, x = .ok a) ↔ ∀ i ∈ items, fault i = none := by
  rw [← List.findSome?_eq_none_iff]
  unfold Reports at h
  cases hfound : items.findSome? fault with
  | none =>
    rw [hfound] at h
    simpa using h
  | some e =>
    rw [hfound] at h
    subst h
    simp

theorem bind (h : Reports fault items x) {f : α → Except ε β}
    (hf : ∀ a, x = .ok a → Reports fault items' (f a)) :
    Reports fault (items ++ items') (x >>= f) := by
  unfold Reports at *
  rw [List.findSome?_append]
  cases hfound : items.findSome? fault with
  | none =>
    rw [hfound] at h
    obtain ⟨a, rfl⟩ := h
    exact hf a rfl
  | some e =>
    rw [hfound] at h
    subst h
    rfl

/-- A step that cannot fail adds nothing to what is reported. -/
theorem bind_ok (h : Reports fault items x) {f : α → Except ε β}
    (hf : ∀ a, x = .ok a → ∃ b, f a = .ok b) : Reports fault items (x >>= f) := by
  rw [← List.append_nil items]
  apply h.bind
  intro a ha
  obtain ⟨b, hb⟩ := hf a ha
  rw [hb]
  exact ok b

theorem map (h : Reports fault items x) (f : α → β) : Reports fault items (x.map f) := by
  have hbind := h.bind_ok fun a _ => ⟨f a, rfl⟩
  cases x <;> exact hbind

/-- A traversal reports what its steps report, in turn. -/
theorem mapM_flatMap {f : α → Except ε β} {sites : α → List ι} {xs : List α}
    (h : ∀ x ∈ xs, Reports fault (sites x) (f x)) :
    Reports fault (xs.flatMap sites) (xs.mapM f) := by
  induction xs with
  | nil => exact ok []
  | cons x xs ih =>
    obtain ⟨hx, hxs⟩ := List.forall_mem_cons.mp h
    rw [List.mapM_cons, List.flatMap_cons]
    apply hx.bind
    intro y _
    exact (ih hxs).map (y :: ·)

theorem mapM {f : α → Except ε β} {site : α → ι} {xs : List α}
    (h : ∀ x ∈ xs, Reports fault [site x] (f x)) : Reports fault (xs.map site) (xs.mapM f) := by
  rw [List.map_eq_flatMap]
  exact mapM_flatMap h

end Reports

end ShapeAlgebra
