import Mathlib.Logic.Relation
import ShapeAlgebra.Native.Inference
import ShapeAlgebra.Proofs.Document.Read
import ShapeAlgebra.Proofs.Native.Conversion
import ShapeAlgebra.Proofs.Parameter.Build
import ShapeAlgebra.Proofs.Ty.Dimensions
import ShapeAlgebra.Proofs.Ty.Traversal

/-!
# What a program can hold

A program starts with nothing and goes on by operations, each applied to what it holds
already. Types come from constructors, from parameters, documents, registries and native
values, and from other types. Whatever the operations and their order, every type that the
program comes to hold is well formed.
-/
namespace ShapeAlgebra

open Native

/-- The types and the registries a program holds. -/
structure Session where
  types : List Ty
  registries : List Registry

namespace Session

/-- A type that is written down without any check. -/
def isPlain : Ty → Bool
  | .null | .date | .time _ | .datetime _ | .bytes | .string _ _ | .scalar _ | .json => true
  | .intConst _ | .strConst _ | .fixed _ | .var | .ellipsis none => true
  | _ => false

/-- One operation gives the type. -/
inductive Gives (s : Session) : Ty → Prop
  | plain {t} (h : isPlain t = true) : Gives s t
  | written {symbol t} (h : Ty.makeWritten symbol = .ok t) : Gives s t
  | typeVar {symbol t} (h : Ty.makeTypeVar symbol = .ok t) : Gives s t
  | numbered (n : Nat) : Gives s (.typeVar (Symbol.numbered n))
  | ellipsis {symbol} (hv : .typeVar symbol ∈ s.types) : Gives s (.ellipsis (some symbol))
  | implements {symbol typeset} (hv : .typeVar symbol ∈ s.types) :
    Gives s (.implements symbol typeset)
  | units {unit value t} (hv : ∀ v ∈ value, v ∈ s.types) (h : Ty.makeUnits unit value = .ok t) :
    Gives s t
  | datashape {params t} (hp : ∀ p ∈ params, p ∈ s.types) (h : Ty.makeDatashape params = .ok t) :
    Gives s t
  | named {name params t} (hp : ∀ p ∈ params, p ∈ s.types)
    (h : Ty.makeNamed name params = .ok t) : Gives s t
  | shaped {dims m t} (hd : ∀ d ∈ dims, d ∈ s.types) (hm : m ∈ s.types)
    (h : Ty.makeShaped dims m = .ok t) : Gives s t
  | record {fields t} (hf : ∀ f ∈ fields, f.2 ∈ s.types) (h : Ty.makeRecord fields = .ok t) :
    Gives s t
  | tuple {members t} (hm : ∀ m ∈ members, m ∈ s.types) (h : Ty.makeTuple members = .ok t) :
    Gives s t
  | function {params t} (hp : ∀ p ∈ params, p ∈ s.types) (h : Ty.makeFunction params = .ok t) :
    Gives s t
  | option {value t} (hv : value ∈ s.types) (h : Ty.makeOption value = .ok t) : Gives s t
  | ofParameters {kind ps t} (hp : ∀ p ∈ ps, ∀ u ∈ Parameter.held p, u ∈ s.types)
    (h : Ty.ofParameters kind ps = .ok t) : Gives s t
  | document {doc t} (h : Document.read doc = .ok t) : Gives s t
  | payload {kind doc t} (h : Document.readPayload kind doc = .ok t) : Gives s t
  | lookup {r name t} (hr : r ∈ s.registries) (h : Registry.lookup r name = .ok t) : Gives s t
  | parameter {t p u} (ht : t ∈ s.types) (hp : p ∈ t.parameters) (hu : u ∈ p.held) : Gives s u
  | freeVariable {t symbol} (ht : t ∈ s.types) (hs : symbol ∈ t.freeVariables) :
    Gives s (.typeVar symbol)
  | dimension {t d} (ht : t ∈ s.types) (hd : d ∈ t.shape) : Gives s d
  | measure {t} (ht : t ∈ s.types) : Gives s t.measure
  | subarray {t leading u} (ht : t ∈ s.types) (h : t.subarray leading = .ok u) : Gives s u
  | signature {t} (ht : t ∈ s.types) : Gives s t.signature
  | native {r a t} (hr : r ∈ s.registries) (h : ArrayForm.toType r a = .ok t) : Gives s t
  | inferred {r v t} (hr : r ∈ s.registries) (hv : ∀ u ∈ v.described, u ∈ s.types)
    (h : Value.inferType r v = .ok t) : Gives s t

/-- One operation gives the registry. -/
inductive GivesRegistry (s : Session) : Registry → Prop
  | empty : GivesRegistry s .empty
  | builtin : GivesRegistry s .builtin
  | register {r name t} (hr : r ∈ s.registries) (ht : t ∈ s.types) :
    GivesRegistry s (r.register name t).2
  | registerNamed {r t} (hr : r ∈ s.registries) (ht : t ∈ s.types) :
    GivesRegistry s (r.registerNamed t).2

/-- What an operation gives is held from then on. -/
inductive Step : Session → Session → Prop
  | type {s t} (h : Gives s t) : Step s { s with types := t :: s.types }
  | registry {s r} (h : GivesRegistry s r) : Step s { s with registries := r :: s.registries }

/-- The session comes about by some operations, one after the other. -/
def Reachable : Session → Prop := Relation.ReflTransGen Step ⟨[], []⟩

/-- Everything held is well formed. -/
structure Sound (s : Session) : Prop where
  types : ∀ t ∈ s.types, t.WellFormed
  registries : ∀ r ∈ s.registries, r.Sound

theorem wellFormed_of_isPlain {t : Ty} (h : isPlain t = true) : t.WellFormed := by
  cases t with
  | ellipsis symbol =>
    cases symbol with
    | none => exact trivial
    | some symbol => cases h
  | units | typeVar | datashape | record | tuple | function | option | implements => cases h
  | _ => exact trivial

/-- The parameters of a type hold its parts, and the variable that it names. -/
theorem wellFormed_of_mem_parameters {t : Ty} (h : t.WellFormed) {p : Parameter}
    (hp : p ∈ t.parameters) {u : Ty} (hu : u ∈ p.held) : u.WellFormed := by
  cases t with
  | units unit value =>
    rcases List.mem_pair.mp hp with rfl | rfl
    · cases hu
    · exact h.of_mem_parts hu
  | datashape params name | function params =>
    obtain ⟨q, hq, rfl⟩ := List.mem_map.mp hp
    exact List.mem_singleton.mp hu ▸ h.of_mem_parts hq
  | record fields | tuple members | option value =>
    obtain rfl := List.mem_singleton.mp hp
    exact h.of_mem_parts hu
  | ellipsis symbol =>
    cases symbol with
    | none =>
      obtain rfl := List.mem_singleton.mp hp
      cases hu
    | some symbol =>
      obtain rfl := List.mem_singleton.mp hp
      exact List.mem_singleton.mp hu ▸ h.nodeValid
  | implements symbol typeset =>
    rcases List.mem_pair.mp hp with rfl | rfl
    · exact List.mem_singleton.mp hu ▸ h.nodeValid
    · cases hu
  | time zone | datetime zone =>
    obtain rfl := List.mem_singleton.mp hp
    cases zone <;> cases hu
  | string length encoding =>
    cases length <;> rcases List.mem_pair.mp hp with rfl | rfl <;> cases hu
  | scalar s =>
    simp only [Ty.parameters, List.mem_cons, List.not_mem_nil, or_false] at hp
    rcases hp with rfl | rfl | rfl <;> cases hu
  | intConst value | strConst value | fixed extent | typeVar symbol =>
    obtain rfl := List.mem_singleton.mp hp
    cases hu
  | null | date | bytes | json | var => cases hp

theorem Sound.wellFormed_of_inferType {s : Session} (hs : s.Sound) {r : Registry} {v : Value}
    {t : Ty} (hv : ∀ u ∈ v.described, u ∈ s.types) (h : v.inferType r = .ok t) :
    t.WellFormed := by
  unfold Value.inferType at h
  split at h
  · next u hu => exact Except.ok.inj h ▸ hs.types u (hv u hu)
  · unfold ValueSort.toType at h
    split at h
    · exact ArrayForm.wellFormed_of_toType h
    all_goals exact Except.ok.inj h ▸ trivial

/-- One operation on a sound session gives a well-formed type. -/
theorem Sound.wellFormed {s : Session} (hs : s.Sound) {t : Ty} (h : Gives s t) :
    t.WellFormed := by
  cases h with
  | plain h => exact wellFormed_of_isPlain h
  | written h => exact Ty.wellFormed_of_makeWritten h
  | typeVar h => exact Ty.wellFormed_of_makeTypeVar h
  | numbered n => exact Bool.or_eq_true_iff.mpr (.inl (Ty.isNumbered_numbered n))
  | ellipsis hv => exact (hs.types _ hv).nodeValid
  | implements hv => exact (hs.types _ hv).nodeValid
  | units hv h => exact Ty.wellFormed_of_makeUnits (fun v hmem => hs.types v (hv v hmem)) h
  | datashape hp h =>
    exact Ty.wellFormed_of_makeDatashape (fun p hmem => hs.types p (hp p hmem)) h
  | named hp h => exact Ty.wellFormed_of_makeNamed (fun p hmem => hs.types p (hp p hmem)) h
  | shaped hd hm h =>
    exact Ty.wellFormed_of_makeShaped (fun d hmem => hs.types d (hd d hmem)) (hs.types _ hm) h
  | record hf h => exact Ty.wellFormed_of_makeRecord (fun f hmem => hs.types f.2 (hf f hmem)) h
  | tuple hm h => exact Ty.wellFormed_of_makeTuple (fun m hmem => hs.types m (hm m hmem)) h
  | function hp h =>
    exact Ty.wellFormed_of_makeFunction (fun p hmem => hs.types p (hp p hmem)) h
  | option hv h => exact Ty.wellFormed_of_makeOption (hs.types _ hv) h
  | ofParameters hp h =>
    exact Ty.wellFormed_of_ofParameters (fun p hmem u hu => hs.types u (hp p hmem u hu)) h
  | document h => exact Document.wellFormed_of_read h
  | payload h => exact Document.wellFormed_of_readPayload h
  | lookup hr h => exact hs.registries _ hr _ _ (Registry.lookup_eq_ok_iff.mp h)
  | parameter ht hp hu => exact wellFormed_of_mem_parameters (hs.types _ ht) hp hu
  | freeVariable ht hsymbol => exact (hs.types _ ht).isValid_of_mem_freeVariables hsymbol
  | dimension ht hd => exact (hs.types _ ht).of_mem_shape hd
  | measure ht => exact (hs.types _ ht).measure
  | subarray ht h => exact Ty.wellFormed_of_subarray (hs.types _ ht) h
  | signature ht => exact (hs.types _ ht).signature
  | native hr h => exact ArrayForm.wellFormed_of_toType h
  | inferred hr hv h => exact hs.wellFormed_of_inferType hv h

theorem Sound.sound_of_givesRegistry {s : Session} (hs : s.Sound) {r : Registry}
    (h : GivesRegistry s r) : r.Sound := by
  cases h with
  | empty => exact Registry.empty_sound
  | builtin => exact Registry.builtin_sound
  | register hr ht => exact (hs.registries _ hr).register (hs.types _ ht) _
  | registerNamed hr ht => exact (hs.registries _ hr).registerNamed (hs.types _ ht)

theorem Sound.step {s s' : Session} (hs : s.Sound) (h : Step s s') : s'.Sound := by
  cases h with
  | type h => exact ⟨List.forall_mem_cons.mpr ⟨hs.wellFormed h, hs.types⟩, hs.registries⟩
  | registry h =>
    exact ⟨hs.types, List.forall_mem_cons.mpr ⟨hs.sound_of_givesRegistry h, hs.registries⟩⟩

theorem Reachable.sound {s : Session} (h : Reachable s) : s.Sound := by
  induction h with
  | refl => exact ⟨List.forall_mem_nil _, List.forall_mem_nil _⟩
  | tail _ hstep ih => exact ih.step hstep

/-- Whatever a program comes to hold, each node of it has the parts it needs in the
positions they fit. So functions occur at roots only, and no datashape and no function is
without a last parameter. -/
theorem wellFormed_of_reachable {s : Session} (hs : Reachable s) {t : Ty} (ht : t ∈ s.types) :
    t.WellFormed ∧ (∀ p ∈ t.parts, ∀ u ∈ p.nodes, u.kind ≠ .function) ∧
      (∀ params name, Ty.datashape params name ∈ t.nodes → 0 < params.length) ∧
      ∀ params, Ty.function params ∈ t.nodes → 0 < params.length := by
  have hw := hs.sound.types t ht
  have hnodes := Ty.wellFormed_iff_nodes.mp hw
  refine ⟨hw, fun p hp u hu => hw.kind_ne_function hp hu, fun params name hmem => ?_,
    fun params hmem => ?_⟩
  · exact Nat.lt_of_lt_of_le Nat.two_pos (hnodes _ hmem).1
  · exact List.length_pos_iff.mpr (hnodes _ hmem).1

/-- An array of a variable extent, its element looked up by name. -/
def sampleArray : Ty := .datashape [.typeVar "N", .scalar .float64] none

/-- A session in which a function of arrays has been made. -/
def sampleSession : Session where
  types := [.function [sampleArray, .typeVar "N"], sampleArray, .scalar .float64, .typeVar "N"]
  registries := [.builtin]

theorem sampleSession_reachable : Reachable sampleSession := by
  have hvariable : Reachable ⟨[.typeVar "N"], []⟩ :=
    .single (.type (.written (show Ty.makeWritten "N" = _ from rfl)))
  have hregistry : Reachable ⟨[.typeVar "N"], [.builtin]⟩ :=
    hvariable.tail (.registry .builtin)
  have hfloat : Registry.builtin.lookup "float64" = .ok (.scalar .float64) :=
    Registry.lookup_eq_ok_iff.mpr (Registry.builtin_get?_scalar (s := .float64) (by decide))
  have hlookup : Reachable ⟨[.scalar .float64, .typeVar "N"], [.builtin]⟩ :=
    hregistry.tail (.type (.lookup List.mem_cons_self hfloat))
  have harray : Reachable
      ⟨[sampleArray, .scalar .float64, .typeVar "N"], [.builtin]⟩ :=
    hlookup.tail (.type (.datashape (by simp)
      (show Ty.makeDatashape [.typeVar "N", .scalar .float64] = _ from rfl)))
  exact harray.tail (.type (.function (by simp)
    (show Ty.makeFunction [sampleArray, .typeVar "N"] = _ from rfl)))

theorem wellFormed_of_reachable_sampleSession :
    Reachable sampleSession ∧ sampleArray ∈ sampleSession.types ∧ sampleArray.WellFormed ∧
      ∀ p ∈ sampleArray.parts, ∀ u ∈ p.nodes, u.kind ≠ .function :=
  have hmem : sampleArray ∈ sampleSession.types := by simp [sampleSession]
  have h := wellFormed_of_reachable sampleSession_reachable hmem
  ⟨sampleSession_reachable, hmem, h.1, h.2.1⟩

end Session

end ShapeAlgebra
