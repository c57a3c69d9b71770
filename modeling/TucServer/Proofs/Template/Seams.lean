import Mathlib.Algebra.Ring.Parity
import Mathlib.Data.List.DropRight
import TucServer.Proofs.Template.Beginnings
import TucServer.Proofs.Template.Context
import TucServer.Proofs.Template.Extension

/-!
# Seams between templates

Two templates written one after the other are the two templates joined, unless they fuse at the
seam: a backslash at the end of the first may escape what follows, and a `$` or a bare label at its
end may go on. `Fuses` says so of the two texts alone. What the first text ends in is known by
counting the backslashes (`Reader.backslashes_of_run`) and from the beginning of the last construct.
-/

namespace TucServer.Template

/-- How many backslashes the text ends in. -/
def backslashes (text : List Char) : Nat :=
  (text.rtakeWhile (· == '\\')).length

/-- The two texts mean something else together: a backslash at the end of the first escapes the
head of the second, or a `$`, with the characters of a name behind it or not, goes on there. -/
def Fuses (first second : List Char) : Prop :=
  (Odd (backslashes first) ∧ ∃ c ∈ second.head?, c ∈ bodyMarks) ∨
  ((first.rdropWhile isNameChar).getLast? = some '$' ∧
    ∃ c ∈ second.head?, isNameChar c ∨ c = '{')

instance (first second : List Char) : Decidable (Fuses first second) :=
  inferInstanceAs (Decidable (_ ∨ _))

variable {c : Char} {cs text : List Char}

/-- One more backslash at the end. -/
lemma backslashes_concat_backslash : backslashes (cs ++ ['\\']) = backslashes cs + 1 := by
  simp [backslashes]

/-- Behind any other character no backslash is at the end. -/
lemma backslashes_concat (h : c ≠ '\\') : backslashes (cs ++ [c]) = 0 := by
  simp [backslashes, h]

/-- Digits are characters of names. -/
lemma isNameChar_of_isDigit (h : c.isDigit) : isNameChar c := by
  simp [isNameChar, Char.isAlphanum, h]

/-- What begins a name can stand in it. -/
lemma isNameChar_of_isNameStart (h : isNameStart c) : isNameChar c := by
  simp only [isNameStart, Bool.or_eq_true] at h
  simp only [isNameChar, Char.isAlphanum, Bool.or_eq_true]
  exact h.imp_left .inl

/-- A label is written in characters of names only, be it a name or an index. -/
lemma LabelText.isNameChar {label : Label} (h : LabelText text label) :
    ∀ c ∈ text, isNameChar c := by
  cases h with
  | index _ hd _ => exact fun c hc => isNameChar_of_isDigit (hd c hc)
  | name hs hr =>
    intro c hc
    rcases List.mem_cons.mp hc with rfl | hc
    · exact isNameChar_of_isNameStart hs
    · exact hr c hc

/-- What continues a label is a character of names. -/
lemma Label.isNameChar_of_continues {label : Label} (h : label.continues c) : isNameChar c := by
  cases label with
  | index => exact isNameChar_of_isDigit h
  | name => exact h

/-- A `$` and a name behind it are what the text ends in. -/
lemma getLast?_rdropWhile (before : List Char) (h : ∀ c ∈ text, isNameChar c) :
    ((before ++ '$' :: text).rdropWhile isNameChar).getLast? = some '$' := by
  have hr : (before ++ '$' :: text).reverse = text.reverse ++ '$' :: before.reverse := by
    simp
  have hd : isNameChar '$' = false := rfl
  rw [List.rdropWhile, hr, List.dropWhile_append_of_pos (by simpa using h), List.dropWhile_cons, hd]
  simp

/-- A construct does not go on with a backslash in a body. -/
lemma Mode.GoesOn.ne_escape {mode next : Mode} (h : mode.GoesOn c next) : next ≠ .escape := by
  rintro rfl
  cases h with
  | choice _ hn => cases hn

/-- A construct that would leave a backslash to the body has not taken one. -/
lemma Mode.GoesOn.ne_backslash {mode next : Mode} (h : mode.GoesOn c next) (hr : next.rests) :
    c ≠ '\\' := by
  rintro rfl
  cases h with
  | bare hs => cases hs
  | bareLabel hc => cases Label.isNameChar_of_continues hc
  | choice _ hn =>
    cases next with
    | body | dollar | bare => cases hn
    | _ => cases hr
  | _ => cases hr

/-- A construct that rests is a `$` and the characters of a name. -/
lemma Mode.Head.name {mode : Mode} (h : mode.Head text) (hr : mode.rests) :
    ∃ name, text = '$' :: name ∧ ∀ c ∈ name, isNameChar c := by
  cases h with
  | dollar => exact ⟨[], rfl, nofun⟩
  | bare hl => exact ⟨_, rfl, hl.isNameChar⟩
  | choice hc =>
    cases mode with
    | body | dollar | bare => cases hc
    | _ => cases hr
  | _ => cases hr

namespace Reader

variable {limit : Option Nat} {r : Reader}

/-- Backslashes in a body come in pairs, and one that is left over is about to escape. -/
lemma backslashes_of_run (h : start.run limit cs = .ok r) :
    (r.mode = .escape → Odd (backslashes cs)) ∧ (r.mode.rests → Even (backslashes cs)) := by
  refine run_induction (motive := fun cs r => (r.mode = .escape → Odd (backslashes cs)) ∧
    (r.mode.rests → Even (backslashes cs))) ⟨?_, fun _ => Even.zero⟩ ?_ h
  · intro he
    cases he
  intro cs r c next _ ih hm
  have other (hc : c ≠ '\\') : Even (backslashes (cs ++ [c])) := by
    rw [backslashes_concat hc]
    exact Even.zero
  cases hm with
  | goesOn hg => exact ⟨fun he => absurd he hg.ne_escape, fun hr => other (hg.ne_backslash hr)⟩
  | escaped he =>
    refine ⟨nofun, fun _ => ?_⟩
    by_cases hc : c = '\\'
    · rw [hc, backslashes_concat_backslash]
      exact (ih.1 he).add_one
    · exact other hc
  | backslash hc hl =>
    subst hc
    refine ⟨fun _ => ?_, nofun⟩
    rw [backslashes_concat_backslash]
    exact (ih.2 ((Mode.leaves_iff_rests rfl).mp hl)).add_one
  | dollar hc => exact ⟨nofun, fun _ => other (by simp [hc])⟩
  | text hc => exact ⟨nofun, fun _ => other hc⟩
  | closes hc => exact ⟨nofun, fun _ => other (by simp [hc])⟩
  | node hc => exact ⟨nofun, fun _ => other (by simp [hc])⟩
  | opens hc => exact ⟨nofun, fun _ => other (by simp [hc])⟩

/-- What a template ends in leaves to the body the head of a text that does not fuse with it. -/
lemma leaves_of_not_fuses {more : List Char} (h : start.run limit cs = .ok r)
    (hb : r.settle.mode = .body) (hn : ¬ Fuses cs more) : ∀ c ∈ more.head?, r.mode.Leaves c := by
  intro c hc
  by_contra hl
  obtain ⟨hbody, ht⟩ := not_or.mp hl
  rw [Bool.not_eq_false] at ht
  -- a `$` or a bare label that goes on fuses with what follows
  have goesOn (place : Nat) (hp : r.mode.place? = some place) (hr : r.mode.rests)
      (hk : isNameChar c ∨ c = '{') : Fuses cs more := by
    obtain ⟨text, hh, before, _, rfl, _⟩ := (trail_of_run h).construct place hp
    obtain ⟨name, rfl, hname⟩ := hh.name hr
    exact .inr ⟨getLast?_rdropWhile before hname, c, hc, hk⟩
  obtain ⟨o, mode, ns, fs⟩ := r
  cases mode with
  | body => exact hbody rfl
  | escape => exact hn (.inl ⟨(backslashes_of_run h).1 rfl, c, hc, mem_bodyMarks.mpr ht⟩)
  | dollar place =>
    refine hn (goesOn place rfl rfl ?_)
    rcases takes_dollar.mp ht with hd | ha | hu | hb
    · exact .inl (isNameChar_of_isDigit hd)
    · exact .inl (isNameChar_of_isNameStart (by simp [isNameStart, ha]))
    · exact .inl (by simp [isNameChar, hu])
    · exact .inr hb
  | bare place label => exact hn (goesOn place rfl rfl (.inl (Label.isNameChar_of_continues ht)))
  | _ => cases hb

end Reader

/-- A template and a source that does not fuse with it are read one after the other: what the source
means is joined to the template, and an error in it is the same error behind the template. -/
theorem parse_append_of_not_fuses (first second : String) (template : Template)
    (h : parse first = .ok template) (hn : ¬ Fuses first.toList second.toList) :
    (∀ more, parse second = .ok more → parse (first ++ second) = .ok (join template more)) ∧
    (∀ error, parse second = .error error →
      parse (first ++ second) = .error ⟨error.fault, error.offset + first.utf8ByteSize⟩) := by
  obtain ⟨r, hr, hf⟩ := parse_eq_ok h
  obtain ⟨hframes, hb, rfl⟩ := Reader.finish_eq_ok hf
  have ho : r.settle.offset = first.utf8ByteSize := by
    rw [Reader.settle_offset, Reader.run_offset hr, width_toList]
    exact Nat.zero_add _
  have hs : parse (first ++ second) =
      r.settle.liftAnswer (join r.settle.nodes.reverse) (parse second) := by
    rw [parse_append, hr]
    show r.readOn _ second.toList = _
    rw [Reader.readOn_leaves (Reader.leaves_of_not_fuses hr hb hn),
      Reader.readOn_lift _ hb (by rwa [Reader.settle_frames])]
    rfl
  constructor
  · intro more hm
    rw [hs, hm]
    rfl
  · intro error he
    rw [hs, he, Reader.liftAnswer_error, Error.shift, ho, Nat.add_comm]

/-- Text is joined at the seam, and an error keeps its distance from it. -/
theorem parse_append_of_not_fuses_text :
    parse "é$1 b" = .ok [.text "é", .field (.index 1) [], .text " b"] ∧
    ¬ Fuses "é$1 b".toList "c$2".toList ∧
    parse ("é$1 b" ++ "c$2") =
      .ok [.text "é", .field (.index 1) [], .text " bc", .field (.index 2) []] ∧
    parse ("é$1 b" ++ "c$\x7b2") = .error ⟨.unterminatedPlaceholder, 7⟩ := by
  have h : parse "é$1 b" = .ok [.text "é", .field (.index 1) [], .text " b"] := rfl
  have hn : ¬ Fuses "é$1 b".toList "c$2".toList := by decide
  refine ⟨h, hn, ?_, ?_⟩
  · exact (parse_append_of_not_fuses _ _ _ h hn).1 [.text "c", .field (.index 2) []] rfl
  · exact (parse_append_of_not_fuses _ "c$\x7b2" _ h (by decide)).2
      ⟨.unterminatedPlaceholder, 1⟩ rfl

end TucServer.Template
