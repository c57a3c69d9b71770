import Mathlib.Data.List.Induction
import TucServer.Proofs.Template.Continuation

/-!
# The steps of a reader

`Reader.Moves` lists what a reader can do with a character and `Reader.Fails` why it can refuse one;
`Reader.moves_of_take` and `Reader.fails_of_take` say that these are all the steps. What every
reader on the way through a source has in common then takes one case for each kind of step, and
`Reader.run_induction` carries it along the source.

At the end of a source it only matters whether the construct that is being read rests, and whether
a body is open. The limit matters only where it refuses a body (`Reader.run_looser`).
-/

namespace TucServer.Template

namespace Mode

/-- Where the construct begins that is being read. -/
def place? : Mode → Option Nat
  | .body | .escape => none
  | .dollar place | .bare place _ | .brace place | .braced place _ => some place
  | .option place .. | .optionEscape place .. | .optionEnd place .. => some place

/-- Where the choice begins whose options are being read. -/
def choice? : Mode → Option Nat
  | .option place .. | .optionEscape place .. | .optionEnd place .. => some place
  | _ => none

/-- Whether a `$` or a closing brace would be read in the body, and not by the construct. -/
def rests : Mode → Bool
  | .body | .dollar _ | .bare _ _ => true
  | _ => false

/-- The construct leaves the character to the body around it. -/
def Leaves (mode : Mode) (c : Char) : Prop :=
  mode = .body ∨ mode.takes c = false

/-- How a construct goes on with a character. -/
inductive GoesOn : Mode → Char → Mode → Prop where
  | bare {place c label} :
    Label.start? c = some label →
    GoesOn (.dollar place) c (.bare place label)
  | brace {place} :
    GoesOn (.dollar place) '{' (.brace place)
  | bareLabel {place c label} :
    label.continues c →
    (label.extend c).inRange →
    GoesOn (.bare place label) c (.bare place (label.extend c))
  | braced {place c label} :
    Label.start? c = some label →
    GoesOn (.brace place) c (.braced place label)
  | bracedLabel {place c label} :
    label.continues c →
    (label.extend c).inRange →
    GoesOn (.braced place label) c (.braced place (label.extend c))
  | options {place index} :
    GoesOn (.braced place (.index index)) '|' (.option place index [] "")
  | choice {place mode c next} :
    mode.choice? = some place →
    next.choice? = some place →
    GoesOn mode c next

/-- The constructs that rest are those that leave to the body what a backslash could escape. -/
lemma leaves_iff_rests {mode : Mode} {c : Char} (hc : Reader.escapable c) :
    mode.Leaves c ↔ mode.rests := by
  have marks : c = '$' ∨ c = '}' ∨ c = '\\' := by
    simpa [Reader.escapable, or_assoc] using hc
  constructor
  · intro h
    cases mode with
    | body | dollar | bare => rfl
    | escape =>
      rcases h with h | h
      · cases h
      · exact absurd hc (Bool.eq_false_iff.mp h)
    | _ => rcases h with h | h <;> cases h
  · intro h
    cases mode with
    | body => exact .inl rfl
    | dollar => rcases marks with rfl | rfl | rfl <;> exact .inr rfl
    | bare place label => rcases marks with rfl | rfl | rfl <;> cases label <;> exact .inr rfl
    | _ => cases h

end Mode

namespace Reader

/-- What a reader can do with a character. -/
inductive Moves (limit : Option Nat) (r : Reader) (c : Char) : Reader → Prop where
  /-- The construct goes on. -/
  | goesOn {mode} :
    r.mode.GoesOn c mode →
    Moves limit r c { r with mode := mode }
  /-- An escaped character is text. -/
  | escaped :
    r.mode = .escape →
    Moves limit r c (r.char c)
  /-- A backslash begins an escape. -/
  | backslash :
    c = '\\' →
    r.mode.Leaves c →
    Moves limit r c { r.settle with mode := .escape }
  /-- A `$` begins a construct. -/
  | dollar :
    c = '$' →
    r.mode.Leaves c →
    Moves limit r c { r.settle with mode := .dollar r.settle.offset }
  /-- Any other character is text. -/
  | text :
    c ≠ '\\' →
    r.mode.Leaves c →
    Moves limit r c (r.settle.char c)
  /-- A brace closes the innermost body. -/
  | closes {frame frames} :
    c = '}' →
    r.mode.Leaves c →
    r.frames = frame :: frames →
    Moves limit r c { r.settle with
      mode := .body
      nodes := .field frame.label r.settle.nodes.reverse :: frame.before
      frames := frames }
  /-- A brace ends a field without a body, or a choice. -/
  | node {n} :
    c = '}' →
    Moves limit r c (r.node n)
  /-- A colon opens a body below the limit. -/
  | opens {place label} :
    c = ':' →
    r.mode = .braced place label →
    (∀ most ∈ limit, r.depth < most) →
    Moves limit r c { r with
      mode := .body
      nodes := []
      frames := ⟨place, label, r.nodes⟩ :: r.frames }

/-- Why a reader can refuse a character. -/
inductive Fails (limit : Option Nat) (r : Reader) (c : Char) : Error → Prop where
  /-- The index would be too large. -/
  | index {place label} :
    r.mode = .bare place label ∨ r.mode = .braced place label →
    label.continues c →
    (label.extend c).inRange = false →
    Fails limit r c ⟨.invalidPlaceholder, place⟩
  /-- The construct does not allow the character. -/
  | stray {place} :
    r.mode.place? = some place →
    r.mode.rests = false →
    Fails limit r c ⟨.invalidPlaceholder, r.offset⟩
  /-- A body more would exceed the limit. -/
  | nesting {place label} :
    c = ':' →
    r.mode = .braced place label →
    limit.any (· ≤ r.depth) →
    Fails limit r c ⟨.nestingTooDeep, place⟩

variable {limit looser : Option Nat} {first r next : Reader} {c : Char} {cs : List Char}
variable {error : Error} {template : Template} {place : Nat}

/-- A character that is read in a body. -/
lemma moves_inBody (h : r.mode.Leaves c) : Moves limit r c (r.settle.inBody c) := by
  simp only [inBody]
  split
  case isTrue hc =>
    subst hc
    simp only [closeBody]
    split
    · exact .text (by decide) h
    case h_2 frame frames e =>
      rw [settle_frames] at e
      exact .closes rfl h e
  case isFalse hc =>
    split
    case isTrue hb => exact .backslash hb h
    case isFalse hb =>
      split
      case isTrue hd => exact .dollar hd h
      case isFalse => exact .text hb h

/-- A reader does nothing else with a character than what is listed. -/
lemma moves_of_take (h : r.take limit c = .ok next) : Moves limit r c next := by
  -- what the construct does not take is read in the body
  by_cases ht : r.mode.takes c = false
  · rw [take_settle ht] at h
    cases h
    exact moves_inBody (.inr ht)
  obtain ⟨o, mode, ns, fs⟩ := r
  cases mode with
  | body =>
    cases h
    exact moves_inBody (.inl rfl)
  | escape =>
    simp only [Mode.takes, Bool.not_eq_false] at ht
    simp only [take, ht, if_true] at h
    cases h
    exact .escaped rfl
  | dollar place =>
    simp only [take] at h
    split at h
    case isTrue hc =>
      subst hc
      cases h
      exact .goesOn .brace
    case isFalse hc =>
      split at h
      case h_1 label hs =>
        cases h
        exact .goesOn (.bare hs)
      case h_2 hs => simp [Mode.takes, hc, hs] at ht
  | bare place label =>
    simp only [Mode.takes, Bool.not_eq_false] at ht
    simp only [take, ht, if_true] at h
    obtain ⟨hr, rfl⟩ := inLabel_eq_ok h
    exact .goesOn (.bareLabel ht hr)
  | brace place =>
    simp only [take] at h
    split at h
    case h_1 label hs =>
      cases h
      exact .goesOn (.braced hs)
    case h_2 => cases h
  | braced place label =>
    simp only [take] at h
    split at h
    case isTrue hc =>
      obtain ⟨hr, rfl⟩ := inLabel_eq_ok h
      exact .goesOn (.bracedLabel hc hr)
    case isFalse =>
      obtain ⟨rfl, rfl⟩ | ⟨rfl, ho⟩ | ⟨index, rfl, rfl, rfl⟩ := afterBraced_eq_ok h
      · exact .node rfl
      · obtain ⟨hd, rfl⟩ := openBody_eq_ok ho
        exact .opens rfl rfl hd
      · exact .goesOn .options
  | option place index options current =>
    simp only [take, inOption] at h
    repeat' split at h
    all_goals
      cases h
      exact .goesOn (.choice rfl rfl)
  | optionEscape place index options current =>
    simp only [take, inOption] at h
    repeat' split at h
    all_goals
      cases h
      exact .goesOn (.choice rfl rfl)
  | optionEnd place index options =>
    simp only [take] at h
    split at h
    case isTrue hc =>
      cases h
      exact .node hc
    case isFalse => cases h

/-- A reader refuses a character for no other reason than those listed. -/
lemma fails_of_take (h : r.take limit c = .error error) : Fails limit r c error := by
  have refused {place label mode} (hl : r.inLabel place label mode = .error error) :
      label.inRange = false ∧ error = ⟨.invalidPlaceholder, place⟩ := by
    simp only [inLabel] at hl
    split at hl
    case isTrue => cases hl
    case isFalse hr =>
      cases hl
      exact ⟨Bool.eq_false_iff.mpr hr, rfl⟩
  obtain ⟨o, mode, ns, fs⟩ := r
  cases mode with
  | body => cases h
  | escape =>
    simp only [take] at h
    split at h <;> cases h
  | dollar =>
    simp only [take] at h
    split at h
    · cases h
    · split at h <;> cases h
  | bare place label =>
    simp only [take] at h
    split at h
    case isTrue hc =>
      obtain ⟨hr, rfl⟩ := refused h
      exact .index (.inl rfl) hc hr
    case isFalse => cases h
  | brace =>
    simp only [take] at h
    split at h
    · cases h
    · cases h
      exact .stray rfl rfl
  | braced place label =>
    simp only [take] at h
    split at h
    case isTrue hc =>
      obtain ⟨hr, rfl⟩ := refused h
      exact .index (.inr rfl) hc hr
    case isFalse =>
      simp only [afterBraced, openBody] at h
      split at h
      · cases h
      split at h
      case isTrue hc =>
        split at h
        case isTrue hd =>
          cases h
          exact .nesting hc rfl hd
        case isFalse => cases h
      case isFalse =>
        repeat' split at h
        all_goals cases h
        all_goals exact .stray rfl rfl
  | option => cases h
  | optionEscape =>
    simp only [take] at h
    split at h <;> cases h
  | optionEnd =>
    simp only [take] at h
    split at h
    · cases h
    · cases h
      exact .stray rfl rfl

/-- What holds at first and is kept by every step holds of every reader on the way. -/
lemma run_induction {motive : List Char → Reader → Prop} (nil : motive [] first)
    (step : ∀ {cs r c next}, first.run limit cs = .ok r → motive cs r → r.Moves limit c next →
      motive (cs ++ [c]) { next with offset := r.offset + c.utf8Size })
    (h : first.run limit cs = .ok r) : motive cs r := by
  induction cs using List.reverseRecOn generalizing r with
  | nil =>
    cases h
    exact nil
  | append_singleton cs c ih =>
    rw [run_append] at h
    cases hr : first.run limit cs with
    | error error =>
      rw [hr] at h
      cases h
    | ok last =>
      rw [hr] at h
      have h' : last.run limit [c] = .ok r := h
      rw [run_cons] at h'
      cases ht : last.take limit c with
      | error error =>
        rw [step_error ht] at h'
        cases h'
      | ok next =>
        rw [step_ok ht] at h'
        cases h'
        exact step hr (ih hr) (moves_of_take ht)

/-- A run fails at the first character that is refused. -/
lemma run_eq_error (h : r.run limit cs = .error error) :
    ∃ before c after last, cs = before ++ c :: after ∧ r.run limit before = .ok last ∧
      last.take limit c = .error error := by
  induction cs generalizing r with
  | nil => cases h
  | cons c cs ih =>
    rw [run_cons] at h
    cases ht : r.take limit c with
    | error e =>
      rw [step_error ht] at h
      cases h
      exact ⟨[], c, cs, r, rfl, rfl, ht⟩
    | ok next =>
      rw [step_ok ht] at h
      obtain ⟨before, d, after, last, rfl, hr, hl⟩ := ih h
      refine ⟨c :: before, d, after, last, rfl, ?_, hl⟩
      rw [run_cons, step_ok ht]
      exact hr

/-- A reader is as many bytes further as it has read. -/
lemma run_offset (h : first.run limit cs = .ok r) : r.offset = first.offset + width cs := by
  refine run_induction (motive := fun cs r => r.offset = first.offset + width cs) rfl ?_ h
  intro cs r c next _ hr _
  show r.offset + c.utf8Size = _
  rw [hr, width_append, width_cons, width_nil, Nat.add_assoc, Nat.add_zero]

/-- A character that a construct leaves is read in the body around it. -/
lemma take_leaves (h : r.mode.Leaves c) : r.take limit c = .ok (r.settle.inBody c) := by
  rcases h with h | h
  · have hs : r.settle = r := by
      rw [settle, h]
    rw [take_body h, hs]
  · exact take_settle h

/-- A construct that leaves a character settles into the body. -/
lemma settle_mode_of_leaves (h : r.mode.Leaves c) : r.settle.mode = .body := by
  rcases h with h | h
  · rw [settle, h]
    exact h
  · exact settle_mode h

/-- A construct that rests settles into the body. -/
lemma settle_mode_of_rests (h : r.mode.rests) : r.settle.mode = .body :=
  settle_mode_of_leaves (c := '$') ((Mode.leaves_iff_rests rfl).mpr h)

/-- A construct is settled before a character that it leaves to the body. -/
lemma run_leaves (h : r.mode.Leaves c) : r.run limit (c :: cs) = r.settle.run limit (c :: cs) := by
  rw [run_cons, run_cons, step_ok (take_leaves h),
    step_ok (take_body (settle_mode_of_leaves h)), settle_offset]

/-- A construct that leaves what comes next may settle first. -/
lemma readOn_leaves (h : ∀ c ∈ cs.head?, r.mode.Leaves c) :
    r.readOn limit cs = r.settle.readOn limit cs := by
  cases cs with
  | nil => exact finish_settle.symm
  | cons c cs => rw [readOn, readOn, run_leaves (h c rfl)]

/-- A brace that closes a body leads back to the one around it. -/
lemma run_closing {frame : Frame} {frames : List Frame} (h : r.mode.rests)
    (hf : r.frames = frame :: frames) :
    r.run limit ('}' :: cs) = run limit ⟨r.offset + '}'.utf8Size, .body,
      .field frame.label r.settle.nodes.reverse :: frame.before, frames⟩ cs := by
  have hi : r.settle.inBody '}' = ⟨r.settle.offset, .body,
      .field frame.label r.settle.nodes.reverse :: frame.before, frames⟩ := by
    rw [← settle_frames] at hf
    simp only [inBody, if_true, closeBody, hf]
  rw [run_cons, step_ok (take_leaves ((Mode.leaves_iff_rests rfl).mpr h)), hi]
  rfl

/-- A template ends outside every body and every pair of braces. -/
lemma finish_eq_ok (h : r.finish = .ok template) :
    r.frames = [] ∧ r.settle.mode = .body ∧ template = r.settle.nodes.reverse := by
  obtain ⟨o, mode, ns, fs⟩ := r
  cases mode with
  | body | escape | dollar | bare =>
    cases fs with
    | nil =>
      cases h
      exact ⟨rfl, rfl, rfl⟩
    | cons => cases h
  | _ => cases h

/-- What settles into the body rests, but for a backslash. -/
lemma rests_or_escape (r : Reader) (h : r.settle.mode = .body) :
    r.mode.rests ∨ r.mode = .escape := by
  obtain ⟨o, mode, ns, fs⟩ := r
  cases mode with
  | body | dollar | bare => exact .inl rfl
  | escape => exact .inr rfl
  | _ => cases h

/-- A source of which the last reader rests outside every body. -/
lemma finish_of_rests (hm : r.mode.rests) (hf : r.frames = []) :
    r.finish = .ok r.settle.nodes.reverse := by
  obtain ⟨o, mode, ns, fs⟩ := r
  cases hf
  cases mode with
  | body | dollar | bare => rfl
  | _ => cases hm

/-- The innermost body is the one that the end of the source leaves open. -/
lemma finish_of_open {frame : Frame} {frames : List Frame} (hm : r.mode.rests)
    (hf : r.frames = frame :: frames) :
    r.finish = .error ⟨.unterminatedPlaceholder, frame.place⟩ := by
  obtain ⟨o, mode, ns, fs⟩ := r
  cases hf
  cases mode with
  | body | dollar | bare => rfl
  | _ => cases hm

/-- Where a construct does not rest, the source could not end. -/
lemma unterminated_of_not_rests (hp : r.mode.place? = some place) (hr : r.mode.rests = false) :
    ∃ e, r.finish = .error e ∧ e.fault.isUnterminated := by
  obtain ⟨o, mode, ns, fs⟩ := r
  cases mode with
  | body | escape => cases hp
  | dollar | bare => cases hr
  | _ => exact ⟨_, rfl, rfl⟩

/-- A limit that refuses less makes no difference but where the other one refuses a body. -/
lemma take_looser (hl : ∀ depth, looser.any (· ≤ depth) → limit.any (· ≤ depth))
    (h : ∀ place, r.take limit c ≠ .error ⟨.nestingTooDeep, place⟩) :
    r.take looser c = r.take limit c := by
  obtain ⟨o, mode, ns, fs⟩ := r
  cases mode with
  | braced place label =>
    by_cases hc : label.continues c
    · simp only [take, hc, if_true]
    by_cases hb : c = ':'
    · subst hb
      have refuses (bound : Option Nat) : take bound ⟨o, .braced place label, ns, fs⟩ ':' =
          openBody bound ⟨o, .braced place label, ns, fs⟩ place label := by
        simp [take, hc, afterBraced]
      rw [refuses] at h
      rw [refuses, refuses]
      by_cases hd : limit.any (· ≤ fs.length)
      · exact absurd (if_pos hd) (h place)
      · have hd' : ¬ looser.any (· ≤ fs.length) := fun ha => hd (hl fs.length ha)
        exact (if_neg hd').trans (if_neg hd).symm
    · simp only [take, hc, afterBraced, hb, if_false]
  | _ => rfl

/-- A limit that refuses less makes no difference to a run in which the other one refuses no body.
-/
lemma run_looser (hl : ∀ depth, looser.any (· ≤ depth) → limit.any (· ≤ depth))
    (h : ∀ place, r.run limit cs ≠ .error ⟨.nestingTooDeep, place⟩) :
    r.run looser cs = r.run limit cs := by
  induction cs generalizing r with
  | nil => rfl
  | cons c cs ih =>
    have hr : r.take looser c = r.take limit c := by
      refine take_looser hl fun place hp => h place ?_
      rw [run_cons, step_error hp]
      rfl
    cases ht : r.take limit c with
    | error error =>
      rw [ht] at hr
      rw [run_cons, run_cons, step_error ht, step_error hr]
      rfl
    | ok next =>
      rw [ht] at hr
      rw [run_cons, step_ok ht] at h
      rw [run_cons, run_cons, step_ok ht, step_ok hr]
      exact ih h

end Reader

end TucServer.Template
