import TucServer.Proofs.Template.Descent.Cursor
import TucServer.Proofs.Template.Descent.Labels

/-!
# Answers of a descent

Of every procedure it is shown that it returns from where it is called, behind a part of what is
ahead there (`Answers`), so that a procedure that calls others is followed from one to the next. Its
answer is compared with the reader: a reader in the mode that belongs to the procedure makes of what
was ahead what it makes of what is ahead afterwards, with the answer among its nodes (`Agrees`).
-/

namespace TucServer.Template

namespace Descent

open Reader

variable {α β : Type} {source : String} {s t : Cursor} {rest after : List Char} {c : Char}

/-- The procedure returns behind a part of what is ahead, with an answer of which this holds. -/
def Answers (m : Descent α) (s : Cursor) (rest : List Char)
    (holds : α → Cursor → List Char → Prop) : Prop :=
  ∃ answer t after, m s = some (.ok (answer, t)) ∧ s.Passes rest t after ∧ holds answer t after

namespace Answers

variable {m : Descent α} {f : α → Descent β} {value : α}
variable {holds holds' : α → Cursor → List Char → Prop} {then' : β → Cursor → List Char → Prop}

/-- An answer without a call leaves the cursor where it is. -/
lemma pure (h : holds value s rest) : Answers (pure value) s rest holds :=
  ⟨value, s, rest, rfl, .refl, h⟩

/-- After a call that is known, the procedure goes on from where the call has left the cursor. -/
lemma bind (hm : m s = some (.ok (value, t))) (hp : s.Passes rest t after)
    (hf : Answers (f value) t after then') : Answers (m >>= f) s rest then' := by
  obtain ⟨answer, u, last, hu, hq, h⟩ := hf
  exact ⟨answer, u, last, (bind_eq hm).trans hu, hp.trans hq, h⟩

/-- A procedure may change the answer of its last call before it returns it. -/
lemma returns {g : α → β} (h : Answers m s rest holds)
    (hi : ∀ {a t after}, holds a t after → then' (g a) t after) :
    Answers (do return g (← m)) s rest then' := by
  obtain ⟨answer, t, after, hm, hp, ha⟩ := h
  exact .bind hm hp (.pure (hi ha))

/-- What holds of an answer holds together with what lies between the two cursors. -/
lemma passes (h : Answers m s rest holds) :
    Answers m s rest fun a t after => s.Passes rest t after ∧ holds a t after := by
  obtain ⟨answer, t, after, hm, hp, ha⟩ := h
  exact ⟨answer, t, after, hm, hp, hp, ha⟩

/-- Of an answer less may be told. -/
lemma mono (h : Answers m s rest holds) (hi : ∀ {a t after}, holds a t after → holds' a t after) :
    Answers m s rest holds' := by
  obtain ⟨answer, t, after, hm, hp, ha⟩ := h
  exact ⟨answer, t, after, hm, hp, hi ha⟩

end Answers

/-- What a reader in this mode makes of what was ahead is the answer if that is an error. If it is a
value, it is what the reader makes of what is ahead now, in a body whose nodes have grown by it. -/
def Agrees (mode : Mode) (s : Cursor) (rest : List Char) (grow : α → List Node → List Node)
    (answer : Except Error α) (t : Cursor) (after : List Char) : Prop :=
  ∀ ns fs, fs.length = s.depth.level →
    readOn (some maxNesting) ⟨s.pos, mode, ns, fs⟩ rest =
      answer >>= fun value => readOn (some maxNesting) ⟨t.pos, .body, grow value ns, fs⟩ after

/-- The answer agrees with the reader, and the cursor has moved if it is a value. -/
structure Reads (mode : Mode) (s : Cursor) (rest : List Char) (grow : α → List Node → List Node)
    (answer : Except Error α) (t : Cursor) (after : List Char) : Prop where
  moves : ∀ value, answer = .ok value → after.length < rest.length
  agrees : Agrees mode s rest grow answer t after

variable {mode mode' : Mode} {grow : α → List Node → List Node} {answer : Except Error α}
variable {s' : Cursor} {rest' : List Char}

/-- An answer agrees with a reader that comes to the reader with which it agrees. -/
lemma Agrees.before (h : Agrees mode' s' rest' grow answer t after) (hp : s.Passes rest s' rest')
    (hr : ∀ ns fs, readOn (some maxNesting) ⟨s.pos, mode, ns, fs⟩ rest =
      readOn (some maxNesting) ⟨s'.pos, mode', ns, fs⟩ rest') :
    Agrees mode s rest grow answer t after :=
  fun ns fs hf => (hr ns fs).trans (h ns fs (hf.trans hp.depth.symm))

/-- An answer that moves the cursor agrees with such a reader and still moves it. -/
lemma Reads.before (h : Reads mode' s' rest' grow answer t after) (hp : s.Passes rest s' rest')
    (hr : ∀ ns fs, readOn (some maxNesting) ⟨s.pos, mode, ns, fs⟩ rest =
      readOn (some maxNesting) ⟨s'.pos, mode', ns, fs⟩ rest') :
    Reads mode s rest grow answer t after where
  moves := fun value ha => Nat.lt_of_lt_of_le (h.moves value ha) hp.length_le
  agrees := h.agrees.before hp hr

/-- What is made of a value may be told before the nodes grow by it or after. -/
lemma Agrees.map {f : β → α} {answer : Except Error β}
    (h : Agrees mode s rest (fun value => grow (f value)) answer t after) :
    Agrees mode s rest grow (answer.map f) t after := by
  cases answer <;> exact h

/-- What is made of a value moves the cursor if the value does. -/
lemma Reads.map {f : β → α} {answer : Except Error β}
    (h : Reads mode s rest (fun value => grow (f value)) answer t after) :
    Reads mode s rest grow (answer.map f) t after where
  moves := by
    cases answer with
    | error => exact nofun
    | ok value => exact fun _ _ => h.moves value rfl
  agrees := h.agrees.map

/-- An error agrees with a reader that answers with it. -/
lemma Reads.refused {error : Error}
    (h : ∀ ns fs, readOn (some maxNesting) ⟨s.pos, mode, ns, fs⟩ rest = .error error) :
    Reads mode s rest grow (.error error) t after where
  moves := nofun
  agrees := fun ns fs _ => h ns fs

/-- A character that is read without a change to the nodes. -/
lemma readOn_mode {o : Nat} {ns : List Node} {fs : List Frame}
    (h : take (some maxNesting) ⟨o, mode, ns, fs⟩ c = .ok ⟨o, mode', ns, fs⟩) :
    readOn (some maxNesting) ⟨o, mode, ns, fs⟩ (c :: rest) =
      readOn (some maxNesting) ⟨o + c.utf8Size, mode', ns, fs⟩ rest :=
  readOn_cons h

/-- A backslash stands for the character behind it or for itself. -/
lemma escape_cases (kind : Char → Bool) (h : s.At source rest) :
    ∃ d text after, rest = text ++ after ∧
      escape source kind s = some (.ok (d, s.advance (width text))) ∧
      (text = [d] ∧ kind d ∨ text = [] ∧ d = '\\' ∧ NoneAhead (kind ·) after) := by
  unfold escape
  rw [bind_eq (peek_eq h)]
  match rest with
  | [] => exact ⟨'\\', [], [], rfl, rfl, .inr ⟨rfl, rfl, nofun⟩⟩
  | d :: rest =>
    dsimp only [List.head?_cons]
    split
    case isTrue hd => exact ⟨d, [d], rest, rfl, bind_eq (bump_eq h), .inl ⟨rfl, hd⟩⟩
    case isFalse hd =>
      refine ⟨'\\', [], d :: rest, rfl, rfl, .inr ⟨rfl, rfl, ?_⟩⟩
      rintro _ ⟨⟩
      exact hd

variable {place index n : Nat} {options : List String} {current : String}

/-- A text that the reader takes for a character of an option. -/
lemma Reads.optionText {text : List Char} {s' : Cursor} (ho : OptionText text rest [c])
    (hp : s.Passes (text ++ rest) s' rest) (hw : s'.pos = s.pos + width text)
    (h : Reads (.option place index options (current.push c)) s' rest grow answer t after) :
    Reads (.option place index options current) s (text ++ rest) grow answer t after := by
  refine h.before hp fun ns fs => ?_
  rw [readOn_optionText ho, hw, ← String.append_singleton, String.singleton_eq_ofList]

/-- Behind the bar after the options only a brace is read, which ends the choice. -/
lemma choiceEnd_answers (h : s.At source rest) :
    Answers (choiceEnd source place options.reverse) s rest
      (Reads (.optionEnd place index options) s rest fun os ns => .choice index os :: ns) := by
  rw [choiceEnd]
  refine .bind (peek_eq h) .refl ?_
  match rest with
  | [] => exact .pure (.refused fun _ _ => rfl)
  | c :: rest =>
    dsimp only [List.head?_cons]
    split
    case isTrue hc =>
      subst hc
      refine .bind (bump_eq h) .skip (.pure ⟨?_, ?_⟩)
      · exact fun _ _ => Nat.lt_succ_self _
      · intro ns fs _
        rw [readOn_cons rfl]
        rfl
    case isFalse hc =>
      refine .bind get_eq .refl (.pure (.refused fun ns fs => readOn_cons_error ?_))
      exact if_neg hc

/-- The options from the cursor on are read as the reader reads them, with one call for each
character or mark. -/
lemma optionsFrom_answers (place index : Nat) (options : List String) (current : String)
    (h : s.At source rest) (hn : rest.length < n) :
    Answers (optionsFrom source place n options current) s rest
      (Reads (.option place index options current) s rest fun os ns => .choice index os :: ns) := by
  induction n generalizing s rest options current with
  | zero => exact absurd hn (Nat.not_lt_zero _)
  | succ n ih =>
  rw [optionsFrom]
  match rest with
  | [] => exact .bind (bump_eq_nil h) .refl (.pure (.refused fun _ _ => rfl))
  | c :: rest =>
    have shorter : rest.length < n := Nat.lt_of_succ_lt_succ hn
    refine .bind (bump_eq h) .skip ?_
    dsimp only
    split
    case isTrue hc =>
      subst hc
      obtain ⟨d, text, after, rfl, he, hd⟩ := escape_cases optionEscapable h.skip
      have ho : OptionText ('\\' :: text) after [d] := by
        rcases hd with ⟨rfl, hd⟩ | ⟨rfl, rfl, hn⟩
        · exact .escaped (mem_optionMarks.mpr hd) .nil
        · exact .backslash (fun c hc hm => hn c hc (mem_optionMarks.mp hm)) .nil
      have shorter' : after.length < n := by
        rw [List.length_append] at shorter
        omega
      refine .bind he .advance ?_
      exact (ih _ _ (h.skip.advance rfl) shorter').mono
        fun ha => ha.optionText ho (.trans .skip .advance) (Nat.add_assoc ..)
    case isFalse hb =>
      split
      case isTrue hc =>
        subst hc
        exact (ih _ _ h.skip shorter).mono fun ha => ha.before .skip fun ns fs => readOn_mode rfl
      case isFalse hc =>
        split
        case isTrue hp =>
          subst hp
          exact (choiceEnd_answers h.skip).mono
            fun ha => ha.before .skip fun ns fs => readOn_mode rfl
        case isFalse hp =>
          have ho : OptionText [c] rest [c] := .char (by simp [hb, hc, hp]) .nil
          exact (ih _ _ h.skip shorter).mono fun ha => ha.optionText ho .skip rfl

end Descent

end TucServer.Template
