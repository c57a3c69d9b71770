import Mathlib.Tactic.Lemma
import TucServer.Template.Reader

/-!
# Reading on

A reader in the middle of a source is known by what it makes of the rest: `Reader.readOn limit r cs`
is the answer when the source goes on with `cs` and ends there. A construct that may end before the
next character is as good as settled when it does not take that character (`readOn_settle`), so that
what a source means can be told from one body to the next.

Errors come from two sides. A step fails because of a character that was read, and what follows
cannot mend it (`readOn_append`). The end of the source fails because something is still open
(`unterminated_of_finish`).
-/

namespace TucServer.Template

/-- How many bytes the characters take. -/
def width : List Char → Nat
  | [] => 0
  | c :: cs => c.utf8Size + width cs

/-- No characters take no bytes. -/
@[simp] lemma width_nil : width [] = 0 := rfl

/-- The bytes of the first character and those of the others. -/
@[simp] lemma width_cons (c : Char) (cs : List Char) :
    width (c :: cs) = c.utf8Size + width cs := rfl

/-- Bytes of two texts add up. -/
@[simp] lemma width_append (cs ds : List Char) : width (cs ++ ds) = width cs + width ds := by
  induction cs with
  | nil => rw [List.nil_append, width_nil, Nat.zero_add]
  | cons c cs ih => rw [List.cons_append, width_cons, width_cons, ih, Nat.add_assoc]

/-- The characters of a string take its bytes. -/
lemma width_toList (s : String) : width s.toList = s.utf8ByteSize := by
  have ofList (cs : List Char) : width cs = (String.ofList cs).utf8ByteSize := by
    induction cs with
    | nil => rfl
    | cons c cs ih =>
      rw [String.ofList_cons, String.utf8ByteSize_append, String.utf8ByteSize_singleton, ← ih]
      rfl
  rw [ofList, String.ofList_toList]

/-- Whether a construct that could end here takes this character. -/
def Mode.takes : Mode → Char → Bool
  | .escape, c => Reader.escapable c
  | .dollar _, c => c == '{' || (Label.start? c).isSome
  | .bare _ label, c => label.continues c
  | _, _ => true

/-- The source ends before something in it does. -/
def Fault.isUnterminated : Fault → Bool
  | .unterminatedPlaceholder | .unterminatedChoice => true
  | .invalidPlaceholder | .nestingTooDeep => false

namespace Reader

/-- What is read when the source goes on with these characters and ends there. -/
def readOn (limit : Option Nat) (r : Reader) (cs : List Char) : Except Error Template :=
  r.run limit cs >>= finish

variable {limit : Option Nat} {r next : Reader} {c : Char} {cs ds : List Char} {error : Error}

/-- A source is read on with from the start. -/
lemma read_eq_readOn : read limit cs = start.readOn limit cs := rfl

/-- A run begins with a step. -/
lemma run_cons : r.run limit (c :: cs) = r.step limit c >>= (run limit · cs) := by
  rw [run, List.foldlM_cons]
  rfl

/-- A run may be interrupted anywhere. -/
lemma run_append : r.run limit (cs ++ ds) = r.run limit cs >>= (run limit · ds) := by
  rw [run, List.foldlM_append]
  rfl

/-- A step that fails fails without looking at its offset. -/
lemma step_error (h : r.take limit c = .error error) : r.step limit c = .error error := by
  rw [step, h]
  rfl

/-- A step that is taken moves the offset behind its character. -/
lemma step_ok (h : r.take limit c = .ok next) :
    r.step limit c = .ok { next with offset := r.offset + c.utf8Size } := by
  rw [step, h]
  rfl

/-- At the end of the source the reader finishes. -/
@[simp] lemma readOn_nil : r.readOn limit [] = r.finish := rfl

/-- What is read after a text is read by the reader behind it. -/
lemma readOn_append : r.readOn limit (cs ++ ds) = r.run limit cs >>= (readOn limit · ds) := by
  rw [readOn, run_append]
  cases r.run limit cs <;> rfl

/-- A character that is taken is behind the reader. -/
lemma readOn_cons (h : r.take limit c = .ok next) :
    r.readOn limit (c :: cs) = readOn limit { next with offset := r.offset + c.utf8Size } cs := by
  rw [readOn, run_cons, step_ok h]
  rfl

/-- A character that is refused decides. -/
lemma readOn_cons_error (h : r.take limit c = .error error) :
    r.readOn limit (c :: cs) = .error error := by
  rw [readOn, run_cons, step_error h]
  rfl

/-- Of a source that is read, its first character is taken. -/
lemma readOn_cons_eq_ok {template : Template} (h : r.readOn limit (c :: cs) = .ok template) :
    ∃ next, r.take limit c = .ok next ∧
      readOn limit { next with offset := r.offset + c.utf8Size } cs = .ok template := by
  cases ht : r.take limit c with
  | error error =>
    rw [readOn_cons_error ht] at h
    cases h
  | ok next =>
    rw [readOn_cons ht] at h
    exact ⟨next, rfl, h⟩

/-- A label goes on only in range, and nothing but the mode changes. -/
lemma inLabel_eq_ok {place label mode} (h : r.inLabel place label mode = .ok next) :
    label.inRange ∧ next = { r with mode := mode } := by
  simp only [inLabel] at h
  split at h
  case isTrue hr =>
    cases h
    exact ⟨hr, rfl⟩
  case isFalse => cases h

/-- A body opens only below the limit, and keeps the nodes before it in its frame. -/
lemma openBody_eq_ok {place label} (h : r.openBody limit place label = .ok next) :
    (∀ most ∈ limit, r.depth < most) ∧
      next = { r with
        mode := .body
        nodes := []
        frames := ⟨place, label, r.nodes⟩ :: r.frames } := by
  simp only [openBody] at h
  split at h
  case isTrue => cases h
  case isFalse hd =>
    cases h
    refine ⟨?_, rfl⟩
    rintro most rfl
    simpa using hd

/-- A label inside braces ends its field, or begins a body, or begins options. -/
lemma afterBraced_eq_ok {place label} (h : r.afterBraced limit place label c = .ok next) :
    (c = '}' ∧ next = r.node (.field label [])) ∨
    (c = ':' ∧ r.openBody limit place label = .ok next) ∨
    (∃ index, c = '|' ∧ label = .index index ∧
      next = { r with mode := .option place index [] "" }) := by
  simp only [afterBraced] at h
  split at h
  case isTrue hc =>
    cases h
    exact .inl ⟨hc, rfl⟩
  case isFalse =>
    split at h
    case isTrue hc => exact .inr (.inl ⟨hc, h⟩)
    case isFalse =>
      split at h
      case h_1 index =>
        split at h
        case isTrue hc =>
          cases h
          exact .inr (.inr ⟨index, hc, rfl, rfl⟩)
        case isFalse => cases h
      case h_2 => cases h

/-- In a body every character is taken. -/
lemma take_body (h : r.mode = .body) : r.take limit c = .ok (r.inBody c) := by
  rw [take, h]

/-- A character that the construct does not take is read in the body around it. -/
lemma take_settle (h : r.mode.takes c = false) : r.take limit c = .ok (r.settle.inBody c) := by
  obtain ⟨offset, mode, nodes, frames⟩ := r
  cases mode with
  | escape => simp only [Mode.takes] at h; simp [take, h]
  | dollar place =>
    simp only [Mode.takes, Bool.or_eq_false_iff, beq_eq_false_iff_ne, Option.isSome_eq_false_iff,
      Option.isNone_iff_eq_none] at h
    simp [take, h]
  | bare place label => simp only [Mode.takes] at h; simp [take, h]
  | _ => cases h

/-- Settling leads back to the body, unless there is nothing that could end. -/
lemma settle_mode (h : r.mode.takes c = false) : r.settle.mode = .body := by
  obtain ⟨offset, mode, nodes, frames⟩ := r
  cases mode with
  | escape => rfl
  | dollar => rfl
  | bare => rfl
  | _ => cases h

/-- Settling moves nothing. -/
@[simp] lemma settle_offset : r.settle.offset = r.offset := by
  obtain ⟨offset, mode, nodes, frames⟩ := r
  cases mode <;> rfl

/-- Settling opens and ends no body. -/
@[simp] lemma settle_frames : r.settle.frames = r.frames := by
  obtain ⟨offset, mode, nodes, frames⟩ := r
  cases mode <;> rfl

/-- At the end of the source a reader and the settled reader answer alike. -/
lemma finish_settle : r.settle.finish = r.finish := by
  obtain ⟨offset, mode, nodes, frames⟩ := r
  cases mode <;> cases frames <;> rfl

/-- A construct that does not take the next character has ended before it. -/
lemma readOn_settle (h : ∀ c ∈ cs.head?, r.mode.takes c = false) :
    r.readOn limit cs = r.settle.readOn limit cs := by
  cases cs with
  | nil => exact finish_settle.symm
  | cons c cs =>
    have hc := h c rfl
    rw [readOn_cons (take_settle hc), readOn_cons (take_body (settle_mode hc)), settle_offset]

/-- The end of a source fails only because something is still open. -/
lemma unterminated_of_finish (h : r.finish = .error error) : error.fault.isUnterminated := by
  obtain ⟨offset, mode, nodes, frames⟩ := r
  cases mode <;> cases frames <;> simp only [finish] at h <;> cases h <;> rfl

end Reader

end TucServer.Template
