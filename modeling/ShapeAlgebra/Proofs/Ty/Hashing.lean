import ShapeAlgebra.Proofs.Ty.NormalForm
import ShapeAlgebra.Ty.Hashing

/-!
# What hashes tell of types

The items that a hash of a type reads are those of its normal form, and they can be read
back: wherever they begin, they tell the normal form and where they end. So two well-formed
types are read alike exactly if they are equal.
-/
namespace ShapeAlgebra

namespace HashItem

variable {α β : Type}

/-- Wherever the items of `a` begin, they tell what is seen of `a`, and where they end. -/
def Tells (items : α → List HashItem) (view : α → β) (a : α) : Prop :=
  ∀ b r s, items a ++ r = items b ++ s → view a = view b ∧ r = s

/-- The items of a list: the number of its members, then the items of each. -/
def ofList (items : α → List HashItem) (as : List α) : List HashItem :=
  arity as.length :: as.flatMap items

theorem flatMap_tells {items : α → List HashItem} {view : α → β} {as bs : List α}
    (h : ∀ a ∈ as, Tells items view a) (hlen : as.length = bs.length) {r s : List HashItem}
    (heq : as.flatMap items ++ r = bs.flatMap items ++ s) :
    as.map view = bs.map view ∧ r = s := by
  induction as generalizing bs with
  | nil =>
    obtain rfl := List.eq_nil_of_length_eq_zero hlen.symm
    exact ⟨rfl, heq⟩
  | cons a as ih =>
    cases bs with
    | nil => cases hlen
    | cons b bs =>
      rw [List.flatMap_cons, List.flatMap_cons, List.append_assoc, List.append_assoc] at heq
      obtain ⟨hhead, heq⟩ := h a List.mem_cons_self b _ _ heq
      obtain ⟨htail, hrest⟩ :=
        ih (fun a' ha' => h a' (List.mem_cons_of_mem a ha')) (Nat.succ.inj hlen) heq
      exact ⟨by rw [List.map_cons, List.map_cons, hhead, htail], hrest⟩

/-- The number of members comes first, so the members are not mistaken for what follows. -/
theorem tells_ofList {items : α → List HashItem} {view : α → β} {as : List α}
    (h : ∀ a ∈ as, Tells items view a) : Tells (ofList items) (List.map view) as := by
  intro bs r s heq
  obtain ⟨hlen, heq⟩ := List.cons.inj heq
  exact flatMap_tells h (arity.inj hlen) heq

theorem tells_ofOption {items : α → List HashItem} (h : ∀ a, Tells items id a)
    (o : Option α) : Tells (ofOption items) id o := by
  intro o' r s heq
  cases o with
  | none =>
    cases o' with
    | none => exact ⟨rfl, (List.cons.inj heq).2⟩
    | some a' => cases (List.cons.inj heq).1
  | some a =>
    cases o' with
    | none => cases (List.cons.inj heq).1
    | some a' =>
      obtain ⟨rfl, hrest⟩ := h a a' r s (List.cons.inj heq).2
      exact ⟨rfl, hrest⟩

theorem tells_text (s : String) : Tells (fun s => [text s]) id s := by
  intro s' r r' heq
  simpa using heq

theorem tells_number (n : UInt64) : Tells (fun n : UInt64 => [number n.toNat]) id n := by
  intro n' r r' heq
  simpa [Int.ofNat_inj, UInt64.toNat_inj] using heq

end HashItem

theorem Kind.index_inj {k l : Kind} (h : k.index = l.index) : k = l := by
  have hmem : k ∈ all := by cases k <;> decide
  exact (List.idxOf_inj hmem).mp h

theorem Encoding.idxOf_all_inj {e f : Encoding} (h : all.idxOf e = all.idxOf f) : e = f := by
  have hmem : e ∈ all := by cases e <;> decide
  exact (List.idxOf_inj hmem).mp h

namespace Ty

open HashItem

theorem hashItemsAll_eq_flatMap (ts : List Ty) : hashItemsAll ts = ts.flatMap hashItems := by
  induction ts with
  | nil => rfl
  | cons t ts ih => simp [hashItemsAll, ih]

theorem hashItemsFields_eq_map (fs : List (String × Ty)) :
    hashItemsFields fs = fs.map fun f => (f.1, f.2.hashItems) := by
  induction fs with
  | nil => rfl
  | cons f fs ih => simp [hashItemsFields, ih]

/-- The items of a field: its name, then those of its type. -/
def fieldItems (f : String × Ty) : List HashItem := text f.1 :: f.2.hashItems

@[simp] theorem hashItems_datashape (params : List Ty) (name : Option String) :
    (datashape params name).hashItems =
      alternative Kind.datashape.index :: ofList hashItems params := by
  rw [hashItems, hashItemsAll_eq_flatMap, ofList]

@[simp] theorem hashItems_tuple (members : List Ty) :
    (tuple members).hashItems = alternative Kind.tuple.index :: ofList hashItems members := by
  rw [hashItems, hashItemsAll_eq_flatMap, ofList]

@[simp] theorem hashItems_function (params : List Ty) :
    (function params).hashItems =
      alternative Kind.function.index :: ofList hashItems params := by
  rw [hashItems, hashItemsAll_eq_flatMap, ofList]

@[simp] theorem hashItems_record (fields : List (String × Ty)) :
    (record fields).hashItems =
      alternative Kind.record.index :: ofList fieldItems (sortByName fields) := by
  rw [hashItems, hashItemsFields_eq_map]
  change _ :: ofEntries (sortByName _) = _
  rw [sortByName_map, ofEntries, List.length_map, List.flatMap_map, ofList]
  rfl

/-- The kind of a type is told first. -/
theorem exists_hashItems_eq_cons (t : Ty) :
    ∃ items, t.hashItems = alternative t.kind.index :: items := by
  cases t <;> exact ⟨_, rfl⟩

theorem kind_eq_of_hashItems {a b : Ty} {r s : List HashItem}
    (h : a.hashItems ++ r = b.hashItems ++ s) : a.kind = b.kind := by
  obtain ⟨itemsA, ha⟩ := exists_hashItems_eq_cons a
  obtain ⟨itemsB, hb⟩ := exists_hashItems_eq_cons b
  rw [ha, hb] at h
  exact Kind.index_inj (alternative.inj (List.cons.inj h).1)

/-- The fields are told in the order of their names, as the normal form has them. -/
theorem tells_record {fs gs : List (String × Ty)}
    (h : ∀ f ∈ fs, Tells hashItems normalForm f.2) {r s : List HashItem}
    (heq : (record fs).hashItems ++ r = (record gs).hashItems ++ s) :
    (record fs).normalForm = (record gs).normalForm ∧ r = s := by
  have hfield : ∀ f ∈ sortByName fs,
      Tells fieldItems (fun f => (f.1, f.2.normalForm)) f := by
    intro f hf g r s heq
    obtain ⟨hname, heq⟩ := List.cons.inj heq
    obtain ⟨hform, hrest⟩ := h f ((sortByName_perm fs).mem_iff.mp hf) g.2 r s heq
    exact ⟨Prod.ext (text.inj hname) hform, hrest⟩
  rw [hashItems_record, hashItems_record] at heq
  obtain ⟨hfields, hrest⟩ := tells_ofList hfield _ r s (List.cons.inj heq).2
  rw [normalForm_record, normalForm_record, sortByName_map, sortByName_map, hfields]
  exact ⟨rfl, hrest⟩

/-- Wherever the items of a type begin, they tell its normal form. -/
theorem tells_hashItems (t : Ty) : Tells hashItems normalForm t := by
  induction t using induction_on_parts with
  | step a ih =>
    intro b r s h
    have hk := kind_eq_of_hashItems h
    cases a with
    | record fs =>
      cases b with
      | record gs => exact tells_record (fun f hf => ih f.2 (List.mem_map_of_mem hf)) h
      | _ => cases hk
    | datashape params name | tuple members | function params =>
      cases b <;> cases hk
      simp only [hashItems_datashape, hashItems_tuple, hashItems_function] at h
      obtain ⟨hparts, hrest⟩ := tells_ofList ih _ r s (List.cons.inj h).2
      rw [parts] at hparts
      exact ⟨by simp [hparts], hrest⟩
    | units unit value =>
      cases b <;> cases hk
      obtain ⟨hunit, h⟩ := List.cons.inj (List.cons.inj h).2
      obtain ⟨hvalue, hrest⟩ := ih value List.mem_cons_self _ r s h
      exact ⟨by rw [normalForm_units, normalForm_units, text.inj hunit, hvalue], hrest⟩
    | option value =>
      cases b <;> cases hk
      obtain ⟨hvalue, hrest⟩ := ih value List.mem_cons_self _ r s (List.cons.inj h).2
      exact ⟨by rw [normalForm_option, normalForm_option, hvalue], hrest⟩
    | time zone | datetime zone | ellipsis symbol =>
      cases b <;> cases hk
      obtain ⟨rfl, hrest⟩ := tells_ofOption tells_text _ _ r s (List.cons.inj h).2
      exact ⟨rfl, hrest⟩
    | string length encoding =>
      cases b <;> cases hk
      simp only [hashItems, List.cons_append, List.append_assoc] at h
      obtain ⟨rfl, hencoding⟩ := tells_ofOption tells_number _ _ _ _ (List.cons.inj h).2
      obtain ⟨hindex, hrest⟩ := List.cons.inj hencoding
      obtain rfl := Encoding.idxOf_all_inj (alternative.inj hindex)
      exact ⟨rfl, hrest⟩
    | _ =>
      cases b <;> cases hk
      simpa [hashItems, normalForm, mapNodes, normalNode, Int64.toInt_inj, Int.ofNat_inj,
        UInt64.toNat_inj, and_assoc] using h

theorem ofList_map_congr {α β : Type} {items : α → List HashItem} {items' : β → List HashItem}
    {f : α → β} {as : List α} (h : ∀ a ∈ as, items' (f a) = items a) :
    ofList items' (as.map f) = ofList items as := by
  rw [ofList, ofList, List.length_map, List.flatMap_map, List.flatMap_congr h]

/-- A hash reads nothing that the normal form has not. -/
theorem hashItems_normalForm (t : Ty) : t.normalForm.hashItems = t.hashItems := by
  induction t using induction_on_parts with
  | step t ih =>
    cases t with
    | record fs =>
      have hfield : ∀ f ∈ sortByName fs, fieldItems (f.1, f.2.normalForm) = fieldItems f := by
        intro f hf
        have hmem : f.2 ∈ (record fs).parts :=
          List.mem_map_of_mem ((sortByName_perm fs).mem_iff.mp hf)
        rw [fieldItems, ih f.2 hmem, fieldItems]
      rw [normalForm_record, hashItems_record, sortByName_sortByName, sortByName_map,
        ofList_map_congr hfield, hashItems_record]
    | datashape params name | tuple members | function params =>
      rw [parts] at ih
      simp [ofList_map_congr ih]
    | units unit value =>
      rw [normalForm_units, hashItems, ih value List.mem_cons_self, hashItems]
    | option value => rw [normalForm_option, hashItems, ih value List.mem_cons_self, hashItems]
    | _ => rfl

theorem hashItems_eq_iff {a b : Ty} :
    a.hashItems = b.hashItems ↔ a.normalForm = b.normalForm := by
  constructor
  · intro h
    exact (tells_hashItems a b [] [] (by rw [h])).1
  · intro h
    rw [← hashItems_normalForm a, h, hashItems_normalForm b]

/-- A hash reads the same items of two types exactly if they are equal. So whatever a hash
function does with the items one after the other, it does the same with equal types. -/
theorem hashItems_eq_iff_equal {a b : Ty} (ha : WellFormed a) (hb : WellFormed b) :
    (a.hashItems = b.hashItems ↔ (a == b) = true) ∧
      ((a == b) = true → ∀ (σ : Type) (feed : σ → HashItem → σ) (start : σ),
        a.hashItems.foldl feed start = b.hashItems.foldl feed start) := by
  have hiff : a.hashItems = b.hashItems ↔ (a == b) = true :=
    hashItems_eq_iff.trans (equal_iff ha hb).symm
  refine ⟨hiff, fun hab σ feed start => ?_⟩
  rw [hiff.mpr hab]

theorem hashItems_eq_iff_equal_sampleColumns :
    WellFormed sampleColumns ∧ WellFormed plainColumns ∧
      sampleColumns.hashItems = plainColumns.hashItems ∧
      sampleColumns.hashItems ≠ (option json).hashItems := by
  have hsample : WellFormed sampleColumns := by decide
  have hplain : WellFormed plainColumns := by decide
  have hequal : (sampleColumns == plainColumns) = true := by decide +kernel
  have hdistinct : ¬(sampleColumns == option json) = true := by decide +kernel
  refine ⟨hsample, hplain, (hashItems_eq_iff_equal hsample hplain).1.mpr hequal, fun h => ?_⟩
  exact hdistinct ((hashItems_eq_iff_equal hsample (by decide)).1.mp h)

end Ty

end ShapeAlgebra
