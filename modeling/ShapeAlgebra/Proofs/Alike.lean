import Mathlib.Data.List.Perm.Basic
import ShapeAlgebra.Proofs.Outcome

/-!
# Computations that succeed together

Two checked computations are alike if one succeeds exactly when the other does and their
results are related. What they fail with may differ.
-/
namespace ShapeAlgebra

variable {ε α β γ δ : Type}

/-- Both computations fail, or both succeed with results related by `R`. -/
inductive Alike (R : α → β → Prop) : Except ε α → Except ε β → Prop
  | ok {a b} (h : R a b) : Alike R (.ok a) (.ok b)
  | error (e e') : Alike R (.error e) (.error e')

namespace Alike

variable {R : α → β → Prop} {S : γ → δ → Prop} {x : Except ε α} {y : Except ε β}

theorem refl (x : Except ε α) : Alike Eq x x := by
  cases x with
  | ok a => exact .ok rfl
  | error e => exact .error e e

theorem isOk_iff (h : Alike R x y) : (∃ a, x = .ok a) ↔ ∃ b, y = .ok b := by
  cases h with
  | ok h => exact ⟨fun _ => ⟨_, rfl⟩, fun _ => ⟨_, rfl⟩⟩
  | error e e' => simp

theorem rel (h : Alike R x y) {a : α} {b : β} (ha : x = .ok a) (hb : y = .ok b) : R a b := by
  cases h with
  | ok h =>
    obtain rfl := Except.ok.inj ha
    obtain rfl := Except.ok.inj hb
    exact h
  | error e e' => cases ha

theorem imp {R' : α → β → Prop} (h : Alike R x y) (himp : ∀ a b, R a b → R' a b) :
    Alike R' x y := by
  cases h with
  | ok h => exact .ok (himp _ _ h)
  | error e e' => exact .error e e'

/-- The relation may rely on where the results come from. -/
theorem attach (h : Alike R x y) : Alike (fun a b => x = .ok a ∧ y = .ok b ∧ R a b) x y := by
  cases h with
  | ok h => exact .ok ⟨rfl, rfl, h⟩
  | error e e' => exact .error e e'

theorem trans {T : β → γ → Prop} {z : Except ε γ} (hxy : Alike R x y) (hyz : Alike T y z) :
    Alike (Relation.Comp R T) x z := by
  cases hxy with
  | ok h =>
    cases hyz with
    | ok h' => exact .ok ⟨_, h, h'⟩
  | error e e' =>
    cases hyz with
    | error _ e'' => exact .error e e''

theorem bind {f : α → Except ε γ} {g : β → Except ε δ} (h : Alike R x y)
    (hfg : ∀ a b, R a b → Alike S (f a) (g b)) : Alike S (x >>= f) (y >>= g) := by
  cases h with
  | ok h => exact hfg _ _ h
  | error e e' => exact .error e e'

theorem map {f : α → γ} {g : β → δ} (h : Alike R x y) (hfg : ∀ a b, R a b → S (f a) (g b)) :
    Alike S (x.map f) (y.map g) := by
  cases h with
  | ok h => exact .ok (hfg _ _ h)
  | error e e' => exact .error e e'

/-- Computations that check a condition and return a value fixed beforehand are alike if
the conditions are equivalent. -/
theorem of_ok_iff {P Q : Prop} {a : α} {b : β} (hx : ∀ c, x = .ok c ↔ P ∧ c = a)
    (hy : ∀ c, y = .ok c ↔ Q ∧ c = b) (hiff : P ↔ Q) (hR : P → R a b) : Alike R x y := by
  by_cases hP : P
  · rw [(hx a).mpr ⟨hP, rfl⟩, (hy b).mpr ⟨hiff.mp hP, rfl⟩]
    exact .ok (hR hP)
  · cases x with
    | ok c => exact absurd ((hx c).mp rfl).1 hP
    | error e =>
      cases y with
      | ok c => exact absurd (hiff.mpr ((hy c).mp rfl).1) hP
      | error e' => exact .error e e'

/-! ## Same results -/

theorem of_eq_ok_iff {y : Except ε α} (h : ∀ a, x = .ok a ↔ y = .ok a) : Alike Eq x y := by
  cases x with
  | ok a =>
    rw [(h a).mp rfl]
    exact .ok rfl
  | error e =>
    cases y with
    | ok b => cases (h b).mpr rfl
    | error e' => exact .error e e'

theorem bind_eq {y : Except ε α} {f g : α → Except ε γ} (h : Alike Eq x y)
    (hfg : ∀ a, Alike Eq (f a) (g a)) : Alike Eq (x >>= f) (y >>= g) := by
  apply h.bind
  rintro a _ rfl
  exact hfg a

/-! ## Traversals -/

theorem mapM {f : α → Except ε γ} {g : β → Except ε δ} {xs : List α} {ys : List β}
    (h : List.Forall₂ (fun x y => Alike S (f x) (g y)) xs ys) :
    Alike (List.Forall₂ S) (xs.mapM f) (ys.mapM g) := by
  induction h with
  | nil => exact .ok .nil
  | cons hxy _ ih =>
    rw [List.mapM_cons, List.mapM_cons]
    refine hxy.bind fun c d hcd => ih.bind fun cs ds hcds => ?_
    exact .ok (.cons hcd hcds)

/-- The order of the members decides which failure comes first, and nothing else. -/
theorem mapM_perm {f : α → Except ε γ} {xs ys : List α} (h : xs.Perm ys) :
    Alike List.Perm (xs.mapM f) (ys.mapM f) := by
  induction h with
  | nil => exact .ok .nil
  | cons x _ ih =>
    rw [List.mapM_cons, List.mapM_cons]
    refine (refl (f x)).bind ?_
    rintro c _ rfl
    refine ih.bind fun cs ds hperm => ?_
    exact .ok (hperm.cons c)
  | swap x y xs =>
    simp only [List.mapM_cons]
    cases f x with
    | error e =>
      cases f y with
      | error e' => exact .error e' e
      | ok d => exact .error e e
    | ok c =>
      cases f y with
      | error e' => exact .error e' e'
      | ok d =>
        cases xs.mapM f with
        | error e => exact .error e e
        | ok cs => exact .ok (.swap c d cs)
  | trans _ _ hxy hyz =>
    refine (hxy.trans hyz).imp ?_
    rintro cs es ⟨ds, hcd, hde⟩
    exact hcd.trans hde

end Alike

end ShapeAlgebra
