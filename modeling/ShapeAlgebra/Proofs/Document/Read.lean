import ShapeAlgebra.Document.Read
import ShapeAlgebra.Proofs.Ty.Make

/-!
# Types read from documents

The parts of a type that is read are read from smaller documents, and the node that holds
them is made by its checked constructor. So whatever is read is well formed.
-/
namespace ShapeAlgebra.Document

open Ty

variable {doc payload : Document} {t : Ty}

theorem built_eq_ok_iff {α : Type} {x : Except Violation α} {a : α} :
    built x = .ok a ↔ x = .ok a :=
  mapError_eq_ok_iff

/-! ## Nodes without parts -/

theorem isValid_of_readSymbol {symbol : String} (h : doc.readSymbol = .ok symbol) :
    Symbol.isValid symbol = true := by
  obtain ⟨s, -, h⟩ := bind_eq_ok_iff.mp h
  obtain ⟨hvalid, rfl⟩ := symbolParse_eq_ok_iff.mp (built_eq_ok_iff.mp h)
  exact hvalid

theorem nodeValid_of_readOptionalSymbol {symbol : Option String}
    (h : doc.readOptionalSymbol = .ok symbol) : NodeValid (ellipsis symbol) := by
  unfold readOptionalSymbol at h
  split at h
  · obtain rfl := Except.ok.inj h
    exact trivial
  · obtain ⟨s, hs, rfl⟩ := map_eq_ok_iff.mp h
    exact isValid_of_readSymbol hs

theorem wellFormed_of_bare? {kind : Kind} (h : bare? kind = some t) : WellFormed t := by
  cases kind <;> cases h <;> exact trivial

theorem wellFormed_of_readBare {label : String} (h : readBare label = .ok t) : WellFormed t := by
  unfold readBare at h
  split at h
  · next found hfound =>
    obtain rfl := Except.ok.inj h
    obtain ⟨kind, -, hbare⟩ := Option.bind_eq_some_iff.mp hfound
    exact wellFormed_of_bare? hbare
  · cases h

theorem wellFormed_of_readPlain {kind : Kind} (h : readPlain kind payload = .ok t) :
    WellFormed t := by
  unfold readPlain at h
  cases kind with
  | time | datetime =>
    dsimp only at h
    split at h
    · obtain ⟨zone, -, h⟩ := bind_eq_ok_iff.mp h
      obtain rfl := Except.ok.inj h
      exact trivial
    · cases h
  | string =>
    dsimp only at h
    split at h
    · obtain ⟨length, -, h⟩ := bind_eq_ok_iff.mp h
      obtain ⟨encoding, -, h⟩ := bind_eq_ok_iff.mp h
      obtain rfl := Except.ok.inj h
      exact trivial
    · cases h
  | scalar =>
    dsimp only at h
    split at h
    · obtain ⟨name, -, h⟩ := bind_eq_ok_iff.mp h
      obtain ⟨size, -, h⟩ := bind_eq_ok_iff.mp h
      obtain ⟨alignment, -, h⟩ := bind_eq_ok_iff.mp h
      obtain rfl := Except.ok.inj h
      exact trivial
    · cases h
  | ellipsis =>
    dsimp only at h
    split at h
    · obtain ⟨symbol, hsymbol, h⟩ := bind_eq_ok_iff.mp h
      obtain rfl := Except.ok.inj h
      exact wellFormed_iff.mpr ⟨nodeValid_of_readOptionalSymbol hsymbol, List.forall_mem_nil _⟩
    · cases h
  | implements =>
    dsimp only at h
    split at h
    · obtain ⟨symbol, hsymbol, h⟩ := bind_eq_ok_iff.mp h
      obtain ⟨typeset, -, h⟩ := bind_eq_ok_iff.mp h
      obtain rfl := Except.ok.inj h
      exact isValid_of_readSymbol hsymbol
    · cases h
  | intConst | strConst | fixed =>
    obtain ⟨value, -, h⟩ := bind_eq_ok_iff.mp h
    obtain rfl := Except.ok.inj h
    exact trivial
  | typeVar =>
    obtain ⟨symbol, hsymbol, h⟩ := bind_eq_ok_iff.mp h
    obtain rfl := Except.ok.inj h
    exact isValid_of_readSymbol hsymbol
  | _ =>
    dsimp only at h
    split at h
    · next hbare =>
      obtain rfl := Except.ok.inj h
      exact wellFormed_of_bare? hbare
    · cases h

/-! ## Parts -/

/-- The type is read from a document of less than the given size. -/
def ReadBelow (size : Nat) (t : Ty) : Prop :=
  ∃ doc : Document, sizeOf doc < size ∧ doc.read = .ok t

theorem ReadBelow.mono {m n : Nat} (h : ReadBelow m t) (hmn : m ≤ n) : ReadBelow n t := by
  obtain ⟨doc, hlt, hread⟩ := h
  exact ⟨doc, Nat.lt_of_lt_of_le hlt hmn, hread⟩

theorem readBelow_of_readAll {docs : List Document} {ts : List Ty} (h : readAll docs = .ok ts)
    (ht : t ∈ ts) : ReadBelow (sizeOf docs) t := by
  induction docs generalizing ts with
  | nil =>
    obtain rfl := Except.ok.inj h
    cases ht
  | cons doc docs ih =>
    obtain ⟨u, hu, h⟩ := bind_eq_ok_iff.mp h
    obtain ⟨us, hus, h⟩ := bind_eq_ok_iff.mp h
    obtain rfl := Except.ok.inj h
    rcases List.mem_cons.mp ht with rfl | ht
    · exact ⟨doc, by simp +arith, hu⟩
    · exact (ih hus ht).mono (by simp)

theorem readBelow_of_readTypes {ts : List Ty} (h : doc.readTypes = .ok ts) (ht : t ∈ ts) :
    ReadBelow (sizeOf doc) t := by
  cases doc with
  | list items => exact (readBelow_of_readAll h ht).mono (by simp)
  | _ => cases h

theorem readBelow_of_readEachField {docs : List Document} {fs : List (String × Ty)}
    (h : readEachField docs = .ok fs) {f : String × Ty} (hf : f ∈ fs) :
    ReadBelow (sizeOf docs) f.2 := by
  induction docs generalizing fs with
  | nil =>
    obtain rfl := Except.ok.inj h
    cases hf
  | cons item docs ih =>
    unfold readEachField at h
    split at h
    · next heq => cases heq
    · next name doc docs' heq =>
      obtain ⟨rfl, rfl⟩ := List.cons.inj heq
      obtain ⟨u, hu, h⟩ := bind_eq_ok_iff.mp h
      obtain ⟨us, hus, h⟩ := bind_eq_ok_iff.mp h
      obtain rfl := Except.ok.inj h
      rcases List.mem_cons.mp hf with rfl | hf
      · exact ⟨doc, by simp +arith, hu⟩
      · exact (ih hus hf).mono (by simp)
    · cases h

theorem readBelow_of_readFields {fs : List (String × Ty)} (h : doc.readFields = .ok fs)
    {f : String × Ty} (hf : f ∈ fs) : ReadBelow (sizeOf doc) f.2 := by
  cases doc with
  | list items => exact (readBelow_of_readEachField h hf).mono (by simp)
  | _ => cases h

section Members

variable {key : String} {members : List (String × Document)}

theorem readBelow_of_readMember (h : readMember key members = .ok t) :
    ReadBelow (sizeOf members) t := by
  induction members with
  | nil => cases h
  | cons m members ih =>
    rw [readMember] at h
    split_ifs at h
    · exact ⟨m.2, by cases m; simp +arith, h⟩
    · exact (ih h).mono (by simp)

theorem readBelow_of_readTypesMember {ts : List Ty} (h : readTypesMember key members = .ok ts)
    (ht : t ∈ ts) : ReadBelow (sizeOf members) t := by
  induction members with
  | nil => cases h
  | cons m members ih =>
    rw [readTypesMember] at h
    split_ifs at h
    · exact (readBelow_of_readTypes h ht).mono (by cases m; simp +arith)
    · exact (ih h).mono (by simp)

theorem readBelow_of_readFieldsMember {fs : List (String × Ty)}
    (h : readFieldsMember key members = .ok fs) {f : String × Ty} (hf : f ∈ fs) :
    ReadBelow (sizeOf members) f.2 := by
  induction members with
  | nil => cases h
  | cons m members ih =>
    rw [readFieldsMember] at h
    split_ifs at h
    · exact (readBelow_of_readFields h hf).mono (by cases m; simp +arith)
    · exact (ih h).mono (by simp)

end Members

/-! ## Whole documents -/

/-- One step: a payload gives a well-formed type if the smaller documents do. -/
theorem wellFormed_of_readPayload_step {kind : Kind}
    (hbelow : ∀ u, ReadBelow (sizeOf payload) u → WellFormed u)
    (h : readPayload kind payload = .ok t) : WellFormed t := by
  have hbelow' : ∀ {size u}, size ≤ sizeOf payload → ReadBelow size u → WellFormed u :=
    fun hsize hu => hbelow _ (hu.mono hsize)
  unfold readPayload at h
  -- Each kind with parts has two cases: its parts are in a list or under keys.
  split at h
  -- units
  case h_1 unit value =>
    obtain ⟨unit, -, h⟩ := bind_eq_ok_iff.mp h
    obtain ⟨v, hv, h⟩ := bind_eq_ok_iff.mp h
    refine wellFormed_of_makeUnits (fun u hu => ?_) (built_eq_ok_iff.mp h)
    obtain rfl := Option.some.inj hu
    exact hbelow v ⟨value, by simp +arith, hv⟩
  case h_2 members =>
    obtain ⟨-, -, h⟩ := bind_eq_ok_iff.mp h
    obtain ⟨unit, -, h⟩ := bind_eq_ok_iff.mp h
    obtain ⟨v, hv, h⟩ := bind_eq_ok_iff.mp h
    refine wellFormed_of_makeUnits (fun u hu => ?_) (built_eq_ok_iff.mp h)
    obtain rfl := Option.some.inj hu
    exact hbelow' (by simp) (readBelow_of_readMember hv)
  -- datashapes
  case h_3 params name =>
    obtain ⟨ts, hts, h⟩ := bind_eq_ok_iff.mp h
    obtain ⟨name, -, h⟩ := bind_eq_ok_iff.mp h
    exact wellFormed_of_makeNamed (fun p hp =>
      hbelow' (by simp +arith) (readBelow_of_readTypes hts hp)) (built_eq_ok_iff.mp h)
  case h_4 members =>
    obtain ⟨-, -, h⟩ := bind_eq_ok_iff.mp h
    obtain ⟨ts, hts, h⟩ := bind_eq_ok_iff.mp h
    obtain ⟨name, -, h⟩ := bind_eq_ok_iff.mp h
    exact wellFormed_of_makeNamed (fun p hp =>
      hbelow' (by simp) (readBelow_of_readTypesMember hts hp)) (built_eq_ok_iff.mp h)
  -- records
  case h_5 fields =>
    obtain ⟨fs, hfs, h⟩ := bind_eq_ok_iff.mp h
    exact wellFormed_of_makeRecord (fun f hf =>
      hbelow' (by simp +arith) (readBelow_of_readFields hfs hf)) (built_eq_ok_iff.mp h)
  case h_6 members =>
    obtain ⟨-, -, h⟩ := bind_eq_ok_iff.mp h
    obtain ⟨fs, hfs, h⟩ := bind_eq_ok_iff.mp h
    exact wellFormed_of_makeRecord (fun f hf =>
      hbelow' (by simp) (readBelow_of_readFieldsMember hfs hf)) (built_eq_ok_iff.mp h)
  -- tuples
  case h_7 types =>
    obtain ⟨ts, hts, h⟩ := bind_eq_ok_iff.mp h
    exact wellFormed_of_makeTuple (fun u hu =>
      hbelow' (by simp +arith) (readBelow_of_readTypes hts hu)) (built_eq_ok_iff.mp h)
  case h_8 members =>
    obtain ⟨-, -, h⟩ := bind_eq_ok_iff.mp h
    obtain ⟨ts, hts, h⟩ := bind_eq_ok_iff.mp h
    exact wellFormed_of_makeTuple (fun u hu =>
      hbelow' (by simp) (readBelow_of_readTypesMember hts hu)) (built_eq_ok_iff.mp h)
  -- functions
  case h_9 params =>
    obtain ⟨ts, hts, h⟩ := bind_eq_ok_iff.mp h
    exact wellFormed_of_makeFunction (fun u hu =>
      hbelow' (by simp +arith) (readBelow_of_readTypes hts hu)) (built_eq_ok_iff.mp h)
  case h_10 members =>
    obtain ⟨-, -, h⟩ := bind_eq_ok_iff.mp h
    obtain ⟨ts, hts, h⟩ := bind_eq_ok_iff.mp h
    exact wellFormed_of_makeFunction (fun u hu =>
      hbelow' (by simp) (readBelow_of_readTypesMember hts hu)) (built_eq_ok_iff.mp h)
  -- options
  case h_11 value =>
    obtain ⟨v, hv, h⟩ := bind_eq_ok_iff.mp h
    exact wellFormed_of_makeOption (hbelow v ⟨value, by simp +arith, hv⟩)
      (built_eq_ok_iff.mp h)
  case h_12 members =>
    obtain ⟨-, -, h⟩ := bind_eq_ok_iff.mp h
    obtain ⟨v, hv, h⟩ := bind_eq_ok_iff.mp h
    exact wellFormed_of_makeOption (hbelow' (by simp) (readBelow_of_readMember hv))
      (built_eq_ok_iff.mp h)
  case h_13 => exact wellFormed_of_readPlain h

theorem wellFormed_of_readBelow {size : Nat} (h : ReadBelow size t) : WellFormed t := by
  induction size generalizing t with
  | zero =>
    obtain ⟨doc, hlt, -⟩ := h
    exact absurd hlt (Nat.not_lt_zero _)
  | succ size ih =>
    obtain ⟨doc, hlt, h⟩ := h
    unfold read at h
    split at h
    · exact wellFormed_of_readBare h
    · next label payload =>
      split at h
      · refine wellFormed_of_readPayload_step (fun u hu => ih (hu.mono ?_)) h
        simp only [object.sizeOf_spec, List.cons.sizeOf_spec, Prod.mk.sizeOf_spec] at hlt
        omega
      · cases h
    · cases h

theorem wellFormed_of_read (h : doc.read = .ok t) : WellFormed t :=
  wellFormed_of_readBelow ⟨doc, Nat.lt_succ_self _, h⟩

theorem wellFormed_of_readPayload {kind : Kind} (h : readPayload kind payload = .ok t) :
    WellFormed t :=
  wellFormed_of_readPayload_step (fun _ => wellFormed_of_readBelow) h

end ShapeAlgebra.Document
