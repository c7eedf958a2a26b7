import ShapeAlgebra.Proofs.Canonical.Items

/-!
# Canonical forms are unambiguous

The reader gives back every well-formed type of the grammar from its canonical form, apart
from the sizes of scalars, which a canonical form does not show. So types of the grammar
with the same canonical form are equal, with the fields of their records in the same order.
-/
namespace ShapeAlgebra.Ty

open Text

/-- What the grammar of canonical forms asks of a node: no display name, a built-in scalar,
no integer that reads as an extent, and words for names, symbols and sets of types. -/
def isGrammatical : Ty → Bool
  | datashape _ name => name.isNone
  | scalar s => (Scalar.builtin.map Scalar.name).contains s.name
  | intConst value => value < 0
  | record fields => fields.all fun f => isWord f.1
  | typeVar symbol => isWord symbol
  | ellipsis (some symbol) => isWord symbol
  | implements symbol typeset => isWord symbol && isWord typeset
  | _ => true

/-- The grammar has a canonical form for the type. -/
def InGrammar (t : Ty) : Prop := ∀ u ∈ t.nodes, u.isGrammatical = true

instance : DecidablePred InGrammar :=
  fun t => inferInstanceAs (Decidable (∀ u ∈ t.nodes, u.isGrammatical = true))

theorem InGrammar.of_mem_parts {t p : Ty} (h : InGrammar t) (hp : p ∈ t.parts) :
    InGrammar p :=
  fun u hu => h u (mem_nodes_of_mem_parts hp hu)

/-- A type that may be a parameter of a datashape. -/
def IsItem (t : Ty) : Prop := t.kind ≠ .datashape ∧ t.kind ≠ .function

theorem isItem_of_fits {t : Ty} {p : Position} (h : t.fits p = true) : IsItem t :=
  ⟨kind_ne_datashape_of_fits h, kind_ne_function_of_fits h⟩

theorem isItem_of_mem_params {params : List Ty} {name : Option String} {p : Ty}
    (h : NodeValid (datashape params name)) (hp : p ∈ params) : IsItem p := by
  rcases mem_shape_or_eq_measure hp name with hp | rfl
  · exact isItem_of_fits (h.2.2 p hp)
  · exact isItem_of_fits h.2.1

/-- One node: the reader takes it back if the reader one level down takes back its parts. -/
theorem reads_item {inner : Reader Ty} {fuel : Nat} {t : Ty} (hv : NodeValid t)
    (hg : t.isGrammatical = true) (hi : IsItem t)
    (hclose : ∀ u, inner (')' :: u) = none)
    (hparts : ∀ p ∈ t.parts, Reads inner TypeEnd p.canonical p.unsized)
    (hfuel : t.parts.length ≤ fuel) :
    Reads (readItemWith inner fuel) ItemEnd t.canonical t.unsized := by
  cases t with
  | null => exact reads_word rfl fun u _ => rfl
  | date => exact reads_word rfl fun u _ => rfl
  | bytes => exact reads_word rfl fun u _ => rfl
  | json => exact reads_word rfl fun u _ => rfl
  | var => exact reads_word rfl fun u _ => rfl
  | time zone => exact reads_zoned rfl (fun u => rfl) zone
  | datetime zone => exact reads_zoned rfl (fun u => rfl) zone
  | units unit value => exact reads_units unit (hparts value (by simp [parts]))
  | string length encoding => exact reads_string length encoding
  | scalar s => exact reads_scalar (by simpa [isGrammatical] using hg)
  | intConst value => exact reads_intConst (by simpa [isGrammatical] using hg)
  | strConst value => exact reads_strConst value
  | fixed extent => exact reads_fixed extent
  | ellipsis symbol =>
    cases symbol with
    | none => exact fun u _ => rfl
    | some symbol => exact reads_ellipsis hg hv
  | typeVar symbol => exact reads_typeVar hg hv
  | implements symbol typeset =>
    obtain ⟨hs, ht⟩ := Bool.and_eq_true_iff.mp hg
    exact reads_implements hs hv ht
  | record fields =>
    refine reads_record (List.all_eq_true.mp hg) ?_ (by simpa [parts] using hfuel)
    exact fun f hf => hparts f.2 (List.mem_map_of_mem hf)
  | tuple members => exact reads_tuple hclose hparts hfuel
  | option value => exact reads_option (hparts value (by simp [parts]))
  | datashape params name => exact absurd rfl hi.1
  | function params => exact absurd rfl hi.2

/-- A list of items as the parameters of a datashape. -/
theorem readList_params {item : Reader Ty} {fuel : Nat} {ts : List Ty} {u : List Char}
    (hne : ts ≠ []) (hfuel : ts.length ≤ fuel)
    (hts : ∀ t ∈ ts, Reads item ItemEnd t.canonical t.unsized) (hu : TypeEnd u) :
    readList item " * " "" fuel ((" * ".intercalate (ts.map canonical)).toList ++ u) =
      some (ts.map unsized, u) :=
  readList_intercalate hne hfuel hts (fun _ => .times _) hu.1 hu.2

theorem reads_type_of_item {item : Reader Ty} {fuel : Nat} {t : Ty} (hfuel : 1 ≤ fuel)
    (ht : Reads item ItemEnd t.canonical t.unsized) :
    Reads (readTypeWith item fuel) TypeEnd t.canonical t.unsized := by
  intro u hu
  have hread := readList_params (List.cons_ne_nil t []) hfuel (by simpa using ht) hu
  rw [List.map_singleton, String.intercalate_singleton] at hread
  rw [readTypeWith, hread]
  rfl

theorem reads_datashape {item : Reader Ty} {fuel : Nat} {params : List Ty}
    (hlen : 2 ≤ params.length) (hfuel : params.length ≤ fuel)
    (ht : ∀ t ∈ params, Reads item ItemEnd t.canonical t.unsized) :
    Reads (readTypeWith item fuel) TypeEnd (datashape params none).canonical
      (datashape params none).unsized := by
  intro u hu
  rw [canonical, canonicals_eq_map, unsized_datashape, readTypeWith]
  obtain ⟨t, rest, rfl⟩ := List.exists_cons_of_length_pos (by omega : 0 < params.length)
  obtain ⟨t', ts, rfl⟩ := List.exists_cons_of_length_pos (Nat.le_of_succ_le_succ hlen)
  rw [readList_params (List.cons_ne_nil _ _) hfuel ht hu]
  rfl

/-! ## Whole types -/

/-- No type begins with a closing bracket. -/
theorem readType_round (fuel : Nat) (u : List Char) : readType fuel (')' :: u) = none := by
  have hitem : readItem fuel (')' :: u) = none := by
    cases fuel with
    | zero => rfl
    | succ fuel => rfl
  cases fuel with
  | zero => rfl
  | succ fuel =>
    rw [readType, readTypeWith, readList, hitem]
    rfl

/-- The reader takes back every type of the grammar. The parts of a node are read as whole
types, and the parameters of a datashape as items. -/
theorem reads_canonical {t : Ty} (hw : WellFormed t) (hg : InGrammar t) {fuel : Nat}
    (hfuel : t.nodes.length ≤ fuel) :
    (IsItem t → Reads (readItem fuel) ItemEnd t.canonical t.unsized) ∧
      (t.kind ≠ .function → Reads (readType fuel) TypeEnd t.canonical t.unsized) := by
  induction t using induction_on_parts generalizing fuel with
  | step t ih =>
    have hlen := length_parts_lt t
    have hnode := hg t (self_mem_nodes t)
    have hitem : IsItem t → Reads (readItem fuel) ItemEnd t.canonical t.unsized := by
      intro hi
      obtain ⟨fuel, rfl⟩ : ∃ k, fuel = k + 1 := Nat.exists_eq_add_one.mpr (by omega)
      refine reads_item hw.nodeValid hnode hi (readType_round fuel) (fun p hp => ?_) (by omega)
      have hlt := length_nodes_lt hp
      exact (ih p hp (hw.of_mem_parts hp) (hg.of_mem_parts hp) (by omega)).2
        (kind_ne_function_of_mem_parts hw.nodeValid hp)
    refine ⟨hitem, fun hf => ?_⟩
    by_cases hd : t.kind = .datashape
    · obtain ⟨params, name, rfl⟩ := exists_eq_datashape hd
      obtain rfl : name = none := Option.isNone_iff_eq_none.mp hnode
      refine reads_datashape hw.nodeValid.1 (by rw [parts] at hlen; omega) fun p hp => ?_
      have hlt := length_nodes_lt (t := datashape params none) hp
      exact (ih p hp (hw.of_mem_parts hp) (hg.of_mem_parts hp) (by omega)).1
        (isItem_of_mem_params hw.nodeValid hp)
    · exact reads_type_of_item (by omega) (hitem ⟨hd, hf⟩)

theorem typeEnd_nil : TypeEnd [] := ⟨.nil, rfl⟩

/-- A function reads as the tuple of its arguments, the arrow and its result. -/
theorem canonical_function (args : List Ty) (result : Ty) :
    (function (args ++ [result])).canonical =
      (tuple args).canonical ++ " -> " ++ result.canonical := by
  simp [canonical, canonicals_eq_map, String.append_assoc]

theorem readAny_function {args : List Ty} {result : Ty} {fuel : Nat}
    (hargs : Reads (readType fuel) TypeEnd (tuple args).canonical (tuple args).unsized)
    (hresult : Reads (readType fuel) TypeEnd result.canonical result.unsized) :
    readAny fuel (function (args ++ [result])).canonical.toList =
      some ((function (args ++ [result])).unsized, []) := by
  have hread := hresult [] typeEnd_nil
  rw [List.append_nil] at hread
  have hend : TypeEnd (" -> ".toList ++ result.canonical.toList) := ⟨.arrow _, rfl⟩
  rw [canonical_function, String.append_assoc, String.toList_append, String.toList_append,
    readAny, hargs _ hend]
  simp only [Option.bind_eq_bind, Option.bind_some, expect_append, unsized_tuple, hread]
  simp

/-- The whole of a canonical form is read, and nothing is left. -/
theorem readAny_canonical {t : Ty} (hw : WellFormed t) (hg : InGrammar t) {fuel : Nat}
    (hfuel : t.nodes.length ≤ fuel) :
    readAny fuel t.canonical.toList = some (t.unsized, []) := by
  by_cases hf : t.kind = .function
  · obtain ⟨params, rfl⟩ := exists_eq_function hf
    obtain ⟨args, result, rfl⟩ := (List.eq_nil_or_concat' params).resolve_left hw.nodeValid.1
    have hparts : ∀ p ∈ (tuple args).parts, p ∈ (function (args ++ [result])).parts :=
      fun p hp => List.mem_append_left _ hp
    have hlen : (tuple args).nodes.length ≤ (function (args ++ [result])).nodes.length := by
      rw [nodes_eq, nodes_eq (function _)]
      simp [parts]
    have hresult : result ∈ (function (args ++ [result])).parts := by simp [parts]
    have hlt := length_nodes_lt hresult
    refine readAny_function ((reads_canonical ?_ ?_ (by omega)).2 (fun h => by cases h))
      ((reads_canonical (hw.of_mem_parts hresult) (hg.of_mem_parts hresult) (by omega)).2
        (kind_ne_function_of_mem_parts hw.nodeValid hresult))
    · exact wellFormed_iff.mpr ⟨fun p hp => hw.nodeValid.2 p (hparts p hp),
        fun p hp => hw.of_mem_parts (hparts p hp)⟩
    · exact forall_nodes_iff.mpr ⟨rfl, fun p hp => hg.of_mem_parts (hparts p hp)⟩
  · have hread := (reads_canonical hw hg hfuel).2 hf [] typeEnd_nil
    rw [List.append_nil] at hread
    rw [readAny, hread]
    rfl

/-- Types of the grammar with the same canonical form are equal. They are even the same type
but for the sizes of scalars, so their records declare their fields in the same order. -/
theorem canonical_unambiguous {a b : Ty} (ha : WellFormed a) (hb : WellFormed b)
    (ga : InGrammar a) (gb : InGrammar b) (h : a.canonical = b.canonical) :
    (a == b) = true ∧ a.unsized = b.unsized := by
  have hread_a := readAny_canonical ha ga (Nat.le_max_left a.nodes.length b.nodes.length)
  have hread_b := readAny_canonical hb gb (Nat.le_max_right a.nodes.length b.nodes.length)
  rw [h, hread_b] at hread_a
  have hab : a.unsized = b.unsized := by simpa using hread_a.symm
  exact ⟨equal_of_unsized_eq hb hab, hab⟩

/-- A function from arrays of records, whose `float64` has a size of its own. -/
def sampleFunction (size : UInt64) : Ty :=
  function
    [datashape [typeVar "N", ellipsis (some "Dims"), record
      [("pos_x", scalar ⟨"float64", size, 8⟩), ("label", option (string (some 4) .utf16)),
       ("at", datetime (some "A, B]")), ("span", units "s\"" (scalar ⟨"int32", 4, 4⟩))]] none,
     tuple [strConst "x * y"], scalar Scalar.complexFloat64]

theorem canonical_unambiguous_sampleFunction :
    (sampleFunction 8).canonical = (sampleFunction 0).canonical ∧
      (sampleFunction 8 == sampleFunction 0) = true ∧
      (sampleFunction 8).unsized = (sampleFunction 0).unsized := by
  have hcanonical : (sampleFunction 8).canonical = (sampleFunction 0).canonical := by
    decide +kernel
  exact ⟨hcanonical,
    canonical_unambiguous (by decide) (by decide) (by decide) (by decide) hcanonical⟩

end ShapeAlgebra.Ty
