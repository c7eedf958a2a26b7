import ShapeAlgebra.Proofs.Canonical.Items
import ShapeAlgebra.Ty.Expression

/-!
# Texts that tell where they end

Some texts can be cut off the front of any text in one way only. They tell the value they were
written for and where the rest begins. A quoted literal is one of them, whatever the string
holds: a backslash is always read together with the character after it, so a quote inside the
string never looks like the one that ends the literal. A string that a type or a parameter
shows in quotes is therefore told from the text around it.
-/
namespace ShapeAlgebra.Text

variable {α : Type}

/-- The text of a value can be cut off the front of any text in one way only. -/
def Delimited (write : α → List Char) : Prop :=
  ∀ a b u v, write a ++ u = write b ++ v → a = b ∧ u = v

namespace Delimited

variable {write : α → List Char}

/-- What a reader takes off the front of every text is delimited. -/
theorem of_read {read : Reader α} (h : ∀ a u, read (write a ++ u) = some (a, u)) :
    Delimited write := by
  intro a b u v heq
  have hread : some (a, u) = some (b, v) := by rw [← h a u, ← h b v, heq]
  simpa using hread

/-- One delimited text after the other tells all the values, if none of the texts is empty. -/
theorem flatMap_injective (h : Delimited write) (hne : ∀ a, write a ≠ []) :
    Function.Injective fun as : List α => as.flatMap write := by
  intro as bs heq
  induction as generalizing bs with
  | nil =>
    cases bs with
    | nil => rfl
    | cons b bs => simp [hne b] at heq
  | cons a as ih =>
    cases bs with
    | nil => simp [hne a] at heq
    | cons b bs =>
      simp only [List.flatMap_cons] at heq
      obtain ⟨rfl, hrest⟩ := h a b _ _ heq
      rw [ih hrest]

end Delimited

theorem delimited_quote : Delimited fun s => (quote s).toList :=
  .of_read Ty.readLiteral_quote

theorem quote_append_inj {s₁ s₂ r₁ r₂ : String} (h : quote s₁ ++ r₁ = quote s₂ ++ r₂) :
    s₁ = s₂ ∧ r₁ = r₂ := by
  have hchars := congrArg String.toList h
  rw [String.toList_append, String.toList_append] at hchars
  obtain ⟨hstring, hrest⟩ := delimited_quote s₁ s₂ _ _ hchars
  exact ⟨hstring, String.toList_inj.mp hrest⟩

/-- A text that shows a string in quotes, with what stands before the string: the canonical form
or the construct expression of a constant, a time with its zone or a unit, or a string parameter. -/
inductive Quotes : String → (String → String) → Prop
  | constant : Quotes "" fun s => (Ty.strConst s).canonical
  | parameter : Quotes "" fun s => (Parameter.str s).expression
  | timeZone : Quotes "time[tz=" fun zone => (Ty.time (some zone)).canonical
  | datetimeZone : Quotes "datetime[tz=" fun zone => (Ty.datetime (some zone)).canonical
  | unit (value : Ty) : Quotes "units[" fun unit => (Ty.units unit value).canonical
  | constantCall : Quotes "StringConstant(" fun s => (Ty.strConst s).expression
  | timeCall : Quotes "Time(" fun zone => (Ty.time (some zone)).expression
  | datetimeCall : Quotes "DateTime(" fun zone => (Ty.datetime (some zone)).expression
  | unitCall (value : Ty) : Quotes "Units(" fun unit => (Ty.units unit value).expression

/-- What stands before and after the string does not depend on the string. -/
theorem Quotes.exists_after {before : String} {write : String → String}
    (h : Quotes before write) : ∃ after, ∀ s, write s = before ++ (quote s ++ after) := by
  cases h with
  | constant | parameter =>
    exact ⟨"", fun s => by simp [Ty.canonical, Parameter.expression]⟩
  | timeZone | datetimeZone =>
    exact ⟨"]", fun zone => by simp [Ty.canonical, zoned, String.append_assoc]⟩
  | unit value =>
    by_cases hstandard : (value == Ty.standardValue) = true
    · exact ⟨"]", fun unit => by simp [Ty.canonical, hstandard, String.append_assoc]⟩
    · exact ⟨", " ++ (value.canonical ++ "]"),
        fun unit => by simp [Ty.canonical, hstandard, String.append_assoc]⟩
  | constantCall | timeCall | datetimeCall =>
    exact ⟨")", fun s => by
      simp [Ty.expression, call, stringArgument, Kind.name, String.append_assoc]⟩
  | unitCall value =>
    exact ⟨", " ++ (value.expression ++ ")"), fun unit => by
      simp [Ty.expression, call, Kind.name, String.append_assoc]⟩

/-- If two texts begin with quoted literals and agree, the literals are those of one string
and the texts go on alike. So wherever a string stands in quotes in the text of a type or a
parameter, texts that begin alike and agree show the same string, and would agree with any
other string in its place. -/
theorem quote_self_delimiting :
    (∀ s₁ s₂ r₁ r₂ : String, quote s₁ ++ r₁ = quote s₂ ++ r₂ → s₁ = s₂ ∧ r₁ = r₂) ∧
      ∀ before write₁ write₂, Quotes before write₁ → Quotes before write₂ →
        ∀ s₁ s₂ r₁ r₂ : String, write₁ s₁ ++ r₁ = write₂ s₂ ++ r₂ →
          s₁ = s₂ ∧ ∀ s, write₁ s ++ r₁ = write₂ s ++ r₂ := by
  refine ⟨fun s₁ s₂ r₁ r₂ => quote_append_inj, ?_⟩
  intro before write₁ write₂ h₁ h₂ s₁ s₂ r₁ r₂ heq
  obtain ⟨after₁, hwrite₁⟩ := h₁.exists_after
  obtain ⟨after₂, hwrite₂⟩ := h₂.exists_after
  simp only [hwrite₁, hwrite₂, String.append_assoc, String.append_right_inj] at heq ⊢
  obtain ⟨hstring, hrest⟩ := quote_append_inj heq
  exact ⟨hstring, fun s => by rw [hrest]⟩

/-- A unit that looks like the end of its literal and what may follow there, before the standard
value type and a smaller scalar of the same name. -/
theorem quote_self_delimiting_oddUnit :
    (Ty.units "m\\', json]" Ty.standardValue).canonical ++ "'" =
        (Ty.units "m\\', json]" (.scalar ⟨"float64", 4, 4⟩)).canonical ++ "'" ∧
      ∀ unit, (Ty.units unit Ty.standardValue).canonical ++ "'" =
        (Ty.units unit (.scalar ⟨"float64", 4, 4⟩)).canonical ++ "'" := by
  obtain ⟨-, hquotes⟩ := quote_self_delimiting
  have htext : (Ty.units "m\\', json]" Ty.standardValue).canonical ++ "'" =
      (Ty.units "m\\', json]" (.scalar ⟨"float64", 4, 4⟩)).canonical ++ "'" := by decide +kernel
  exact ⟨htext, (hquotes _ _ _ (.unit _) (.unit _) _ _ _ _ htext).2⟩

end ShapeAlgebra.Text
