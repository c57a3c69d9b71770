import TucServer.Proofs.Template.Completeness
import TucServer.Proofs.Template.Descent

/-!
# Labels that are taken at once

The reader lets a label grow by one character after the other, and a descent takes all the
characters of its kind at once. Both come to the same label behind the same text, and an index that
is too large is refused with the same error.
-/

namespace TucServer.Template

variable {c : Char} {rest : List Char} {label : Label}

/-- Behind all characters of a kind there is none of this kind. -/
lemma noneAhead_dropWhile (kind : Char → Bool) : NoneAhead (kind ·) (rest.dropWhile kind) := by
  intro c hc
  have h := List.head?_dropWhile_not kind rest
  rw [hc] at h
  simpa using h

/-- The digits ahead are a label, unless their index is too large. -/
lemma Descent.indexOf_cases (place : Nat) (rest : List Char) (hc : c.isDigit) :
    (∃ value, indexOf place (String.ofList ((c :: rest).takeWhile Char.isDigit)) = .ok value ∧
      LabelText ((c :: rest).takeWhile Char.isDigit) (.index value)) ∨
    (indexOf place (String.ofList ((c :: rest).takeWhile Char.isDigit)) =
        .error ⟨.invalidPlaceholder, place⟩ ∧
      indexBound ≤ Digit.number ((c :: rest).takeWhile Char.isDigit)) := by
  have hd : ∀ d ∈ (c :: rest).takeWhile Char.isDigit, d.isDigit :=
    fun d hd => List.all_eq_true.mp List.all_takeWhile d hd
  have hn : (c :: rest).takeWhile Char.isDigit ≠ [] := by
    rw [List.takeWhile_cons_of_pos hc]
    exact nofun
  have hs : String.ofList ((c :: rest).takeWhile Char.isDigit) ≠ "" :=
    fun h => hn (String.ofList_inj.mp h)
  unfold indexOf
  rw [String.toList_ofList]
  by_cases hb : Digit.number ((c :: rest).takeWhile Char.isDigit) < indexBound
  · exact .inl ⟨_, if_pos ⟨hs, hb⟩, .index hn hd hb⟩
  · exact .inr ⟨if_neg fun h => hb h.2, Nat.le_of_not_lt hb⟩

/-- The characters of a name that follow are the text of a label. -/
lemma labelText_name (hc : isNameStart c) : LabelText ((c :: rest).takeWhile isNameChar)
    (.name (String.ofList ((c :: rest).takeWhile isNameChar))) := by
  have hc' : isNameChar c := by
    simp only [isNameStart, isNameChar, Char.isAlphanum, Bool.or_eq_true] at hc ⊢
    exact hc.imp_left .inl
  rw [List.takeWhile_cons_of_pos hc']
  exact .name hc fun d hd => List.all_eq_true.mp List.all_takeWhile d hd

namespace Reader

variable {limit : Option Nat} {o p : Nat} {ns : List Node} {fs : List Frame}

/-- A label directly behind `$` is a field as far as it extends. -/
lemma readOn_bareLabel {kind : Char → Bool} (h : LabelText (rest.takeWhile kind) label)
    (hk : label.continues = kind) :
    readOn limit ⟨o, .dollar p, ns, fs⟩ rest =
      readOn limit ⟨o + width (rest.takeWhile kind), .body, .field label [] :: ns, fs⟩
        (rest.dropWhile kind) := by
  have hs : ∀ c ∈ (rest.dropWhile kind).head?, (Mode.bare p label).takes c = false := by
    subst hk
    exact fun c hc => Bool.eq_false_iff.mpr (noneAhead_dropWhile label.continues c hc)
  have hb : readOn limit ⟨o, .dollar p, ns, fs⟩ (rest.takeWhile kind ++ rest.dropWhile kind) = _ :=
    readOn_bare h
  rw [List.takeWhile_append_dropWhile] at hb
  rw [hb, readOn_settle hs]
  rfl

/-- A label in braces is read as far as it extends. -/
lemma readOn_bracedLabel {kind : Char → Bool} (h : LabelText (rest.takeWhile kind) label) :
    readOn limit ⟨o, .brace p, ns, fs⟩ rest =
      readOn limit ⟨o + width (rest.takeWhile kind), .braced p label, ns, fs⟩
        (rest.dropWhile kind) := by
  have hb : readOn limit ⟨o, .brace p, ns, fs⟩ (rest.takeWhile kind ++ rest.dropWhile kind) = _ :=
    readOn_braced h
  rwa [List.takeWhile_append_dropWhile] at hb

/-- A label that is an index and grows until it is too large. -/
lemma readOn_grows_tooLarge {value : Nat} {grown : Label → Mode}
    (hm : grown = .bare p ∨ grown = .braced p) (hv : value < indexBound)
    (hb : indexBound ≤ Nat.ofDigitChars 10 (rest.takeWhile Char.isDigit) value) :
    readOn limit ⟨o, grown (.index value), ns, fs⟩ rest = .error ⟨.invalidPlaceholder, p⟩ := by
  induction rest generalizing o value with
  | nil => exact absurd hv (Nat.not_lt.mpr hb)
  | cons c rest ih =>
    by_cases hc : c.isDigit
    · rw [List.takeWhile_cons_of_pos hc, Nat.ofDigitChars_cons] at hb
      by_cases hr : 10 * value + Digit.value c < indexBound
      · have htake : take limit ⟨o, grown (.index value), ns, fs⟩ c =
            .ok ⟨o, grown (.index (10 * value + Digit.value c)), ns, fs⟩ := by
          rcases hm with rfl | rfl <;>
            simp [take, Label.continues, Label.extend, inLabel, Label.inRange, hc, hr]
        rw [readOn_cons htake]
        exact ih hr hb
      · refine readOn_cons_error ?_
        rcases hm with rfl | rfl <;>
          simp [take, Label.continues, Label.extend, inLabel, Label.inRange, hc, hr]
    · rw [List.takeWhile_cons_of_neg hc] at hb
      exact absurd hv (Nat.not_lt.mpr hb)

/-- Digits of an index that is too large are refused, with the place of the `$` and wherever the
digit stands that makes it so. -/
lemma readOn_tooLarge {mode : Mode} (hm : mode = .dollar p ∨ mode = .brace p) (hc : c.isDigit)
    (hb : indexBound ≤ Digit.number ((c :: rest).takeWhile Char.isDigit)) :
    readOn limit ⟨o, mode, ns, fs⟩ (c :: rest) = .error ⟨.invalidPlaceholder, p⟩ := by
  have hs : Label.start? c = some (.index (Digit.value c)) := if_pos hc
  have hv := value_lt_indexBound hc
  rw [List.takeWhile_cons_of_pos hc, Digit.number_cons] at hb
  rcases hm with rfl | rfl
  · have hc' : c ≠ '{' := by
      rintro rfl
      exact absurd hc (by decide)
    have htake : take limit ⟨o, .dollar p, ns, fs⟩ c =
        .ok ⟨o, .bare p (.index (Digit.value c)), ns, fs⟩ := by
      simp [take, hc', hs]
    rw [readOn_cons htake]
    exact readOn_grows_tooLarge (.inl rfl) hv hb
  · have htake : take limit ⟨o, .brace p, ns, fs⟩ c =
        .ok ⟨o, .braced p (.index (Digit.value c)), ns, fs⟩ := by
      simp [take, hs]
    rw [readOn_cons htake]
    exact readOn_grows_tooLarge (.inr rfl) hv hb

end Reader

end TucServer.Template
