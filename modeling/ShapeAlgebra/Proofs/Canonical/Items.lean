import ShapeAlgebra.Proofs.Canonical.Reader

/-!
# Reading back single nodes

For each kind of type that is no datashape: the reader takes its canonical form off the
front of any text that may follow it, provided it does so for the parts of the type.
-/
namespace ShapeAlgebra.Ty

open Text

/-- The reader takes the text off whatever may follow it, and gives the value. -/
def Reads {α : Type} (read : Reader α) (stop : List Char → Prop) (text : String) (a : α) :
    Prop :=
  ∀ u, stop u → read (text.toList ++ u) = some (a, u)

/-- What may follow a type that is no datashape. -/
inductive ItemEnd : List Char → Prop
  | nil : ItemEnd []
  | comma (u : List Char) : ItemEnd (',' :: u)
  | round (u : List Char) : ItemEnd (')' :: u)
  | square (u : List Char) : ItemEnd (']' :: u)
  | brace (u : List Char) : ItemEnd (' ' :: '\x7d' :: u)
  | arrow (u : List Char) : ItemEnd (' ' :: '-' :: u)
  | times (u : List Char) : ItemEnd (' ' :: '*' :: u)

/-- What may follow any type: no further parameter of a datashape. -/
def TypeEnd (u : List Char) : Prop := ItemEnd u ∧ expect " * " u = none

namespace ItemEnd

variable {u : List Char}

theorem wordEnd (h : ItemEnd u) : WordEnd u := by
  intro c hc
  cases h <;> cases hc <;> rfl

theorem expect_bracket (h : ItemEnd u) : expect "[" u = none := by cases h <;> rfl

theorem expect_zone (h : ItemEnd u) : expect "[tz=" u = none := by cases h <;> rfl

theorem expect_dots (h : ItemEnd u) : expect "..." u = none := by cases h <;> rfl

theorem expect_colon (h : ItemEnd u) : expect " : " u = none := by cases h <;> rfl

end ItemEnd

/-! ## Lists -/

theorem readList_intercalate {α β : Type} {read : Reader β} {stop : List Char → Prop}
    {separator terminator : String} {text : α → String} {value : α → β} {as : List α}
    {fuel : Nat} {u : List Char} (hne : as ≠ []) (hfuel : as.length ≤ fuel)
    (hread : ∀ a ∈ as, Reads read stop (text a) (value a))
    (hsep : ∀ v, stop (separator.toList ++ v)) (hend : stop (terminator.toList ++ u))
    (hdiff : expect separator (terminator.toList ++ u) = none) :
    readList read separator terminator fuel
        ((separator.intercalate (as.map text)).toList ++ (terminator.toList ++ u)) =
      some (as.map value, u) := by
  induction as generalizing fuel with
  | nil => exact absurd rfl hne
  | cons a as ih =>
    obtain ⟨fuel, rfl⟩ : ∃ k, fuel = k + 1 := Nat.exists_eq_add_one.mpr (by simp at hfuel; omega)
    have ha := hread a List.mem_cons_self
    cases as with
    | nil =>
      simp only [List.map_cons, List.map_nil, String.intercalate_singleton]
      simp [readList, ha _ hend, hdiff]
    | cons b bs =>
      have hrest := ih (by simp) (by simpa using hfuel)
        fun c hc => hread c (List.mem_cons_of_mem a hc)
      simp only [List.map_cons, String.intercalate_cons_cons, String.toList_append,
        List.append_assoc] at hrest ⊢
      rw [readList, ha _ (hsep _)]
      simp only [Option.bind_eq_bind, Option.bind_some, expect_append, hrest]
      rfl

/-! ## Words and literals -/

theorem readLiteral_quote (s : String) (u : List Char) :
    readLiteral ((quote s).toList ++ u) = some (s, u) := by
  have hq : ∀ cs, expect "'" ('\x27' :: cs) = some cs := fun _ => rfl
  rw [toList_quote, List.cons_append, List.append_assoc, List.singleton_append]
  simp [readLiteral, hq, unquote_quoteBody]

section Items

variable {inner : Reader Ty} {fuel : Nat} {u : List Char}

/-- A text that begins with a word is told by the word. -/
theorem readItemWith_word {w : String} (hw : isWord w = true) (hu : WordEnd u) :
    readItemWith inner fuel (w.toList ++ u) = readNamed inner w u := by
  obtain ⟨hne, hall⟩ := isWord_iff.mp hw
  have htake := takeWord_append hall hu
  obtain ⟨c, cs, hc⟩ := List.exists_cons_of_ne_nil hne
  have hword : isWordChar c = true := List.all_eq_true.mp hall c (by simp [hc])
  rw [hc, List.cons_append] at htake ⊢
  unfold readItemWith
  split
  -- a character that begins anything else is no word character
  case h_7 => rw [htake]
  all_goals
    rename_i heq
    obtain ⟨rfl, -⟩ := List.cons.inj heq
    exact absurd hword (by decide)

theorem readNamed_symbol {symbol : String} (h : Symbol.isValid symbol = true) :
    readNamed inner symbol u = some (readVariable symbol u) := by
  exact if_pos h

theorem reads_word {w : String} {t : Ty} (hw : isWord w = true)
    (h : ∀ u, ItemEnd u → readNamed inner w u = some (t, u)) :
    Reads (readItemWith inner fuel) ItemEnd w t :=
  fun u hu => (readItemWith_word hw hu.wordEnd).trans (h u hu)

theorem isCapital_of_isDigit {c : Char} (h : c.isDigit = true) : isCapital c = false := by
  have hr := Char.isDigit_iff_toNat.mp h
  simp only [Char.reduceToNat] at hr
  rw [isCapital, if_pos (by omega)]
  change decide ('A'.val ≤ c.val ∧ c.val ≤ 'Z'.val) = false
  simp only [UInt32.le_iff_toNat_le, Char.toNat_val, Char.reduceToNat, decide_eq_false_iff_not]
  omega

theorem isValid_of_isDigit {w : String} (hw : isWord w = true)
    (hd : w.toList.all Char.isDigit = true) : Symbol.isValid w = false := by
  obtain ⟨c, cs, hc⟩ := List.exists_cons_of_ne_nil (isWord_iff.mp hw).1
  have hdigit : c.isDigit = true := List.all_eq_true.mp hd c (by simp [hc])
  have hi : c ≠ 'i' := by
    rintro rfl
    exact absurd hdigit (by decide)
  simp [Symbol.isValid, Symbol.isNumbered, Symbol.isWritten, hc, hi,
    isCapital_of_isDigit hdigit]

theorem readNamed_number {w : String} (hw : isWord w = true)
    (hd : w.toList.all Char.isDigit = true) :
    readNamed inner w u = some (fixed (UInt64.ofNat (number w)), u) := by
  have hs := isValid_of_isDigit hw hd
  unfold readNamed
  rw [if_neg (by simp [hs]), if_neg (by simp [hw]), if_pos hd]

theorem reads_fixed (extent : UInt64) :
    Reads (readItemWith inner fuel) ItemEnd (fixed extent).canonical (fixed extent) := by
  have hw := isWord_repr extent.toNat
  have hd : extent.toNat.repr.toList.all Char.isDigit = true := by
    rw [Nat.toList_repr, List.all_eq_true]
    exact fun c hc => Nat.isDigit_of_mem_toDigits (by decide) (by decide) hc
  refine reads_word hw fun u _ => (readNamed_number hw hd).trans ?_
  rw [number_repr, UInt64.ofNat_toNat]

theorem reads_intConst {value : Int64} (h : value < 0) :
    Reads (readItemWith inner fuel) ItemEnd (intConst value).canonical (intConst value) := by
  have hneg : value.toInt < 0 := by simpa [Int64.lt_iff_toInt_lt] using h
  obtain ⟨n, hn⟩ := Int.eq_negSucc_of_lt_zero hneg
  have htext : (intConst value).canonical = "-" ++ (n + 1).repr := by
    rw [canonical, hn]
    rfl
  intro u hu
  have hword : takeWord ((n + 1).repr.toList ++ u) = ((n + 1).repr, u) :=
    takeWord_append (isWord_iff.mp (isWord_repr (n + 1))).2 hu.wordEnd
  rw [htext, String.toList_append, List.append_assoc]
  change some (intConst (Int64.ofInt (-number (takeWord ((n + 1).repr.toList ++ u)).1)),
    (takeWord ((n + 1).repr.toList ++ u)).2) = _
  rw [hword, number_repr, show -((n + 1 : ℕ) : Int) = value.toInt from hn.symm,
    Int64.ofInt_toInt]

theorem reads_strConst (value : String) :
    Reads (readItemWith inner fuel) ItemEnd (strConst value).canonical (strConst value) := by
  intro u _
  rw [canonical, toList_quote, List.cons_append, List.append_assoc, List.singleton_append]
  simp [readItemWith, unquote_quoteBody]

theorem reads_variable {symbol tail : String} {t : Ty} (hw : isWord symbol = true)
    (hs : Symbol.isValid symbol = true) (hend : ∀ u, ItemEnd u → WordEnd (tail.toList ++ u))
    (h : ∀ u, ItemEnd u → readVariable symbol (tail.toList ++ u) = (t, u)) :
    Reads (readItemWith inner fuel) ItemEnd (symbol ++ tail) t := by
  intro u hu
  rw [String.toList_append, List.append_assoc, readItemWith_word hw (hend u hu),
    readNamed_symbol hs, h u hu]

theorem reads_typeVar {symbol : String} (hw : isWord symbol = true)
    (hs : Symbol.isValid symbol = true) :
    Reads (readItemWith inner fuel) ItemEnd (typeVar symbol).canonical (typeVar symbol) := by
  refine reads_word hw fun u hu => (readNamed_symbol hs).trans ?_
  rw [readVariable, hu.expect_dots, hu.expect_colon]

theorem reads_ellipsis {symbol : String} (hw : isWord symbol = true)
    (hs : Symbol.isValid symbol = true) :
    Reads (readItemWith inner fuel) ItemEnd (ellipsis (some symbol)).canonical
      (ellipsis (some symbol)) := by
  refine reads_variable hw hs (fun u _ => ?_) fun u _ => ?_
  · rintro c ⟨⟩
    rfl
  · rw [readVariable, expect_append]

theorem reads_implements {symbol typeset : String} (hw : isWord symbol = true)
    (hs : Symbol.isValid symbol = true) (ht : isWord typeset = true) :
    Reads (readItemWith inner fuel) ItemEnd (implements symbol typeset).canonical
      (implements symbol typeset) := by
  have htext : (implements symbol typeset).canonical = symbol ++ (" : " ++ typeset) := by
    rw [canonical, String.append_assoc]
  rw [htext]
  refine reads_variable hw hs (fun u _ => ?_) fun u hu => ?_
  · rw [String.toList_append]
    rintro c ⟨⟩
    rfl
  · have hdots : expect "..." ((" : " ++ typeset).toList ++ u) = none := by
      rw [String.toList_append]
      rfl
    have htake := takeWord_append (isWord_iff.mp ht).2 hu.wordEnd
    rw [readVariable, hdots, String.toList_append, List.append_assoc, expect_append]
    simp only [htake]

theorem wordEnd_square (u : List Char) : WordEnd ("]".toList ++ u) := by
  rintro c ⟨⟩
  rfl

theorem reads_complex (part : String) (hp : isWord part = true) :
    Reads (readItemWith inner fuel) ItemEnd ("complex" ++ ("[" ++ (part ++ "]")))
      (scalar ⟨"complex[" ++ part ++ "]", 0, 0⟩) := by
  intro u _
  have htake := takeWord_append (isWord_iff.mp hp).2 (wordEnd_square u)
  simp only [String.toList_append, List.append_assoc]
  rw [readItemWith_word rfl (by rintro c ⟨⟩; rfl)]
  change readComplex ("[".toList ++ (part.toList ++ ("]".toList ++ u))) = _
  rw [readComplex, expect_append]
  simp only [Option.bind_eq_bind, Option.bind_some, htake]
  rfl

/-- The names of the built-in scalars are words, and neither symbols nor numbers nor
keywords, except that those of complex scalars show their parts. -/
theorem reads_scalar {s : Scalar} (h : s.name ∈ Scalar.builtin.map Scalar.name) :
    Reads (readItemWith inner fuel) ItemEnd (scalar s).canonical (scalar s).unsized := by
  have hplain : ∀ name : String, isWord name = true →
      (∀ v, readNamed inner name v = some (scalar ⟨name, 0, 0⟩, v)) →
      Reads (readItemWith inner fuel) ItemEnd name (scalar ⟨name, 0, 0⟩) :=
    fun _ hw hread => reads_word hw fun v _ => hread v
  change Reads _ _ s.name (scalar ⟨s.name, 0, 0⟩)
  generalize s.name = name at h ⊢
  simp only [Scalar.builtin, List.map_cons, List.map_nil, List.mem_cons, List.not_mem_nil,
    or_false] at h
  rcases h with rfl | rfl | rfl | rfl | rfl | rfl | rfl | rfl | rfl | rfl | rfl | rfl | rfl |
    rfl | rfl | rfl | rfl
  iterate 13 exact hplain _ rfl fun _ => rfl
  · exact reads_complex "float32" rfl
  · exact reads_complex "float64" rfl
  iterate 2 exact hplain _ rfl fun _ => rfl

/-! ## Brackets -/

theorem readZone_some (zone : String) (u : List Char) :
    readZone ("[tz=".toList ++ ((quote zone).toList ++ ("]".toList ++ u))) =
      some (some zone, u) := by
  rw [readZone, expect_append]
  simp only [readLiteral_quote, Option.bind_eq_bind, Option.bind_some, expect_append]
  rfl

theorem reads_zoned {keyword : String} {make : Option String → Ty} (hw : isWord keyword = true)
    (hread : ∀ u, readNamed inner keyword u =
      (readZone u).map fun r => (make r.1, r.2)) (zone : Option String) :
    Reads (readItemWith inner fuel) ItemEnd (zoned keyword zone) (make zone) := by
  cases zone with
  | none =>
    refine reads_word hw fun u hu => (hread u).trans ?_
    rw [readZone, hu.expect_zone]
    rfl
  | some zone =>
    intro u _
    simp only [zoned, String.toList_append, List.append_assoc]
    rw [readItemWith_word hw (by rintro c ⟨⟩; rfl), hread, readZone_some]
    rfl

theorem readEncoding_name (length : Option UInt64) (encoding : Encoding) (u : List Char) :
    readEncoding length ((quote encoding.name).toList ++ ("]".toList ++ u)) =
      some (string length encoding, u) := by
  rw [readEncoding, readLiteral_quote]
  simp only [Option.bind_eq_bind, Option.bind_some, Encoding.ofAlias?_name, expect_append]
  rfl

theorem expect_quote_of_isWord {w : String} (hw : isWord w = true) :
    expect "'" (w.toList ++ u) = none := by
  obtain ⟨hne, hall⟩ := isWord_iff.mp hw
  obtain ⟨c, cs, hc⟩ := List.exists_cons_of_ne_nil hne
  have hword : isWordChar c = true := List.all_eq_true.mp hall c (by simp [hc])
  have hquote : '\x27' ≠ c := by
    rintro rfl
    exact absurd hword (by decide)
  simp [expect, hc, List.isPrefixOf?, hquote]

theorem readStringMeasure_length (length : UInt64) (u : List Char) :
    readStringMeasure ("[".toList ++ (length.toNat.repr.toList ++ ("]".toList ++ u))) =
      some (string (some length) .standard, u) := by
  have hw := isWord_repr length.toNat
  have htake := takeWord_append (isWord_iff.mp hw).2 (wordEnd_square u)
  have hcomma : expect "," ("]".toList ++ u) = none := rfl
  rw [readStringMeasure, expect_append]
  simp only [expect_quote_of_isWord hw, htake, hcomma, expect_append, number_repr,
    UInt64.ofNat_toNat, Option.map_some]

theorem readStringMeasure_length_encoding (length : UInt64) (encoding : Encoding)
    (u : List Char) :
    readStringMeasure ("[".toList ++ (length.toNat.repr.toList ++
        (",".toList ++ ((quote encoding.name).toList ++ ("]".toList ++ u))))) =
      some (string (some length) encoding, u) := by
  have hw := isWord_repr length.toNat
  have htake : ∀ cs, takeWord (length.toNat.repr.toList ++ (",".toList ++ cs)) =
      (length.toNat.repr, ",".toList ++ cs) :=
    fun cs => takeWord_append (isWord_iff.mp hw).2 (by rintro c ⟨⟩; rfl)
  rw [readStringMeasure, expect_append]
  simp only [expect_quote_of_isWord hw, htake, expect_append, number_repr,
    UInt64.ofNat_toNat, readEncoding_name]

theorem readStringMeasure_encoding (encoding : Encoding) (u : List Char) :
    readStringMeasure ("[".toList ++ ((quote encoding.name).toList ++ ("]".toList ++ u))) =
      some (string none encoding, u) := by
  have hquote : expect "'" ((quote encoding.name).toList ++ ("]".toList ++ u)) =
      some (quoteBody encoding.name.toList ++ ['\x27'] ++ ("]".toList ++ u)) := by
    rw [toList_quote]
    rfl
  rw [readStringMeasure, expect_append]
  simp only [hquote, readEncoding_name]

theorem reads_string (length : Option UInt64) (encoding : Encoding) :
    Reads (readItemWith inner fuel) ItemEnd (string length encoding).canonical
      (string length encoding) := by
  have hread : ∀ u, readNamed inner "string" u = readStringMeasure u := fun _ => rfl
  have hbracket : ∀ cs, readItemWith inner fuel ("string[".toList ++ cs) =
      readStringMeasure ("[".toList ++ cs) :=
    fun cs => readItemWith_word (w := "string") rfl (by rintro c ⟨⟩; rfl)
  simp only [canonical, stringMeasure]
  by_cases he : encoding = .standard
  · subst he
    rw [if_pos rfl]
    cases length with
    | none =>
      refine reads_word rfl fun u hu => (hread u).trans ?_
      rw [readStringMeasure, hu.expect_bracket]
    | some length =>
      intro u _
      simp only [String.toList_append, List.append_assoc, Nat.toString_eq_repr]
      rw [hbracket, readStringMeasure_length]
  · rw [if_neg he]
    cases length with
    | none =>
      intro u _
      simp only [String.toList_append, List.append_assoc]
      rw [hbracket, readStringMeasure_encoding]
    | some length =>
      intro u _
      simp only [String.toList_append, List.append_assoc, Nat.toString_eq_repr]
      rw [hbracket, readStringMeasure_length_encoding]

theorem unsized_of_beq_standardValue {value : Ty} (h : (value == standardValue) = true) :
    value.unsized = standardValue.unsized := by
  change equal value (scalar .float64) = true at h
  cases value
  case scalar s =>
    have hname : s.name = Scalar.float64.name := by simpa [equal] using h
    simp [standardValue, hname]
  all_goals simp [equal] at h

theorem reads_units (unit : String) {value : Ty}
    (hv : Reads inner TypeEnd value.canonical value.unsized) :
    Reads (readItemWith inner fuel) ItemEnd (units unit value).canonical
      (units unit value).unsized := by
  have hbracket : ∀ cs, readItemWith inner fuel ("units[".toList ++ cs) =
      readUnits inner ("[".toList ++ cs) :=
    fun cs => readItemWith_word (w := "units") rfl (by rintro c ⟨⟩; rfl)
  intro u _
  rw [canonical, unsized_units]
  split_ifs with hstandard
  · simp only [String.toList_append, List.append_assoc]
    rw [hbracket, readUnits, expect_append]
    simp only [Option.bind_eq_bind, Option.bind_some, readLiteral_quote,
      unsized_of_beq_standardValue hstandard]
    rfl
  · simp only [String.toList_append, List.append_assoc]
    rw [hbracket, readUnits, expect_append]
    simp only [Option.bind_eq_bind, Option.bind_some, readLiteral_quote, expect_append]
    rw [hv ("]".toList ++ u) ⟨.square u, rfl⟩]
    rfl

theorem reads_option {value : Ty} (hv : Reads inner TypeEnd value.canonical value.unsized) :
    Reads (readItemWith inner fuel) ItemEnd (option value).canonical
      (option value).unsized := by
  have hbracket : ∀ cs, readItemWith inner fuel ("option[".toList ++ cs) =
      readOption inner ("[".toList ++ cs) :=
    fun cs => readItemWith_word (w := "option") rfl (by rintro c ⟨⟩; rfl)
  intro u _
  simp only [canonical, unsized_option, String.toList_append, List.append_assoc]
  rw [hbracket, readOption, expect_append]
  simp only [Option.bind_eq_bind, Option.bind_some]
  rw [hv ("]".toList ++ u) ⟨.square u, rfl⟩]
  rfl

theorem reads_field {name : String} {t : Ty} (hw : isWord name = true)
    (ht : Reads inner TypeEnd t.canonical t.unsized) :
    Reads (readField inner) TypeEnd (name ++ " : " ++ t.canonical) (name, t.unsized) := by
  intro u hu
  simp only [String.toList_append, List.append_assoc]
  have htake := takeWord_append (u := " : ".toList ++ (t.canonical.toList ++ u))
    (isWord_iff.mp hw).2 (by rintro c ⟨⟩; rfl)
  rw [readField, htake]
  simp only [Option.bind_eq_bind, Option.bind_some, expect_append, ht u hu]
  rfl

theorem readItemWith_brace (cs : List Char) :
    readItemWith inner fuel ("\x7b ".toList ++ cs) =
      (readList (readField inner) ", " " \x7d" fuel cs).map fun r => (record r.1, r.2) := rfl

theorem readItemWith_round (cs : List Char) :
    readItemWith inner fuel ("(".toList ++ cs) =
      match readList inner ", " ")" fuel cs with
      | some (ts, cs) => some (tuple ts, cs)
      | none => (expect ")" cs).map fun cs => (tuple [], cs) := rfl

theorem reads_record {fields : List (String × Ty)} (hw : ∀ f ∈ fields, isWord f.1 = true)
    (ht : ∀ f ∈ fields, Reads inner TypeEnd f.2.canonical f.2.unsized)
    (hfuel : fields.length ≤ fuel) :
    Reads (readItemWith inner fuel) ItemEnd (record fields).canonical
      (record fields).unsized := by
  cases fields with
  | nil => exact fun u _ => rfl
  | cons f fs =>
    intro u _
    have hread : readList (readField inner) ", " " \x7d" fuel
        ((", ".intercalate ((f :: fs).map fun g => g.1 ++ " : " ++ g.2.canonical)).toList ++
          (" \x7d".toList ++ u)) =
        some ((f :: fs).map fun g => (g.1, g.2.unsized), u) :=
      readList_intercalate (List.cons_ne_nil f fs) hfuel
        (fun g hg => reads_field (hw g hg) (ht g hg)) (fun v => ⟨.comma _, rfl⟩)
        ⟨.brace u, rfl⟩ rfl
    rw [canonical, canonicalFields_eq_map, unsized_record]
    · simp only [String.toList_append, List.append_assoc]
      rw [readItemWith_brace, hread]
      rfl
    · simp

theorem reads_tuple {members : List Ty} (hclose : ∀ u, inner (')' :: u) = none)
    (ht : ∀ t ∈ members, Reads inner TypeEnd t.canonical t.unsized)
    (hfuel : members.length ≤ fuel) :
    Reads (readItemWith inner fuel) ItemEnd (tuple members).canonical
      (tuple members).unsized := by
  intro u _
  rw [canonical, canonicals_eq_map, unsized_tuple]
  cases members with
  | nil =>
    have hnone : readList inner ", " ")" fuel (')' :: u) = none := by
      cases fuel with
      | zero => rfl
      | succ fuel => rw [readList, hclose]; rfl
    change readItemWith inner fuel ("(".toList ++ ')' :: u) = _
    rw [readItemWith_round, hnone]
    rfl
  | cons t ts =>
    have hread : readList inner ", " ")" fuel
        ((", ".intercalate ((t :: ts).map canonical)).toList ++ (")".toList ++ u)) =
        some ((t :: ts).map unsized, u) :=
      readList_intercalate (List.cons_ne_nil t ts) hfuel ht (fun v => ⟨.comma _, rfl⟩)
        ⟨.round u, rfl⟩ rfl
    simp only [String.toList_append, List.append_assoc]
    rw [readItemWith_round, hread]

end Items

end ShapeAlgebra.Ty
