import TucServer.Proofs.Template.Beginnings
import TucServer.Proofs.Template.Context
import TucServer.Proofs.Template.Extension

/-!
# The causes of errors

An error lies at the character that caused it. Where the source ends too early this is the `$` of
what is still open. From there on the source fails alone in the same way (`Reader.finish_eq_error`),
and the part in front only lacks braces. An index that is too large is blamed at its `$`, and any
other character at its own place (`Reader.Fails`).
-/

namespace TucServer.Template

/-- A label at the head of the text, bare or in braces, is an index that is too large. -/
def IndexTooLarge (text : List Char) : Prop :=
  ∃ rest, (text = '$' :: rest ∨ text = '$' :: '{' :: rest) ∧
    indexBound ≤ Digit.number (rest.takeWhile Char.isDigit)

/-- More digits write no smaller number. -/
lemma number_le_append (digits more : List Char) :
    Digit.number digits ≤ Digit.number (digits ++ more) := by
  rw [Digit.number, Digit.number, Nat.ofDigitChars_append]
  exact le_ofDigitChars _ more

/-- A label that does not stay in range makes an index that is too large, whatever follows. -/
lemma indexTooLarge_of_extend {text rest : List Char} {label : Label} {c : Char}
    (h : LabelText text label) (hc : label.continues c) (hr : (label.extend c).inRange = false) :
    indexBound ≤ Digit.number ((text ++ c :: rest).takeWhile Char.isDigit) := by
  cases h with
  | name => cases hr
  | index _ hd _ =>
    have ht : (text ++ c :: rest).takeWhile Char.isDigit =
        text ++ [c] ++ rest.takeWhile Char.isDigit := by
      have hc' : c.isDigit := hc
      rw [List.takeWhile_append_of_pos hd, List.takeWhile_cons_of_pos hc']
      simp
    have hb : indexBound ≤ Digit.number (text ++ [c]) := by
      simpa [Label.extend, Label.inRange, Digit.number_concat] using hr
    rw [ht]
    exact Nat.le_trans hb (number_le_append _ _)

namespace Reader

variable {limit : Option Nat} {outer r next : Reader} {c : Char} {cs : List Char} {error : Error}
variable {most place : Nat} {fault : Fault}

/-- What is open begins in what has been read. -/
lemma lt_offset_of_isOpen (h : start.run limit cs = .ok r) (ho : r.IsOpen place) :
    place < r.offset := by
  have lt {frames text} (hb : Begins limit cs place frames text) (hne : text ≠ []) :
      place < r.offset := by
    obtain ⟨before, _, rfl, rfl, _⟩ := hb
    obtain ⟨c, text, rfl⟩ := List.exists_cons_of_ne_nil hne
    have hp := c.utf8Size_pos
    rw [run_offset h, width_append, width_cons, start]
    omega
  rcases ho with hp | ⟨frame, hm, rfl⟩
  · obtain ⟨text, hh, hb⟩ := (trail_of_run h).construct place hp
    exact lt hb hh.ne_nil
  · obtain ⟨text, frames, hb⟩ := (trail_of_run h).frames frame hm
    exact lt hb (List.cons_ne_nil _ _)

/-- Where the source ends too early, the construct or field to blame begins with its braces. -/
lemma begins_of_finish (h : start.run limit cs = .ok r) (hf : r.finish = .error error) :
    ∃ text frames, Begins limit cs error.offset frames ('$' :: '{' :: text) := by
  have trail := trail_of_run h
  obtain ⟨o, mode, ns, fs⟩ := r
  have construct (place : Nat) (hp : mode.place? = some place) (hr : mode.rests = false) :
      ∃ text frames, Begins limit cs place frames ('$' :: '{' :: text) := by
    obtain ⟨text, hh, hb⟩ := trail.construct place hp
    obtain ⟨rest, rfl⟩ := hh.brace_of_not_rests hr
    exact ⟨rest, fs, hb⟩
  cases mode with
  | body | escape | dollar | bare =>
    cases fs with
    | nil => cases hf
    | cons frame fs =>
      cases hf
      exact trail.frames frame List.mem_cons_self
  | _ =>
    cases hf
    exact construct _ rfl rfl

/-- In a context an error at the end is the same, or it lies in the context. -/
lemma finish_lift_error (h : (outer.lift r).finish = .error error) :
    (∃ e, r.finish = .error e ∧ error = e.shift outer.offset) ∨ outer.IsOpen error.offset := by
  obtain ⟨o, mode, ns, fs⟩ := r
  cases mode with
  | body | escape | dollar | bare =>
    cases fs with
    | nil =>
      simp only [lift, Mode.shift, liftFrames, finish] at h
      split at h
      case h_1 => cases h
      case h_2 frame frames hf =>
        cases h
        exact .inr (.inr ⟨frame, hf ▸ List.mem_cons_self, rfl⟩)
    | cons frame fs =>
      cases h
      exact .inl ⟨_, rfl, rfl⟩
  | _ =>
    cases h
    exact .inl ⟨_, rfl, rfl⟩

/-- What is to blame for the end of a source is to blame alone. -/
lemma finish_eq_error (hm : outer.mode = .body) (hd : outer.depth ≤ most)
    (ho : ∀ place, outer.IsOpen place → place < outer.offset)
    (h : outer.run (some most) cs = .ok next) (hf : next.finish = .error ⟨fault, outer.offset⟩) :
    start.readOn (some most) cs = .error ⟨fault, 0⟩ := by
  rcases run_eq_lift hm hd h with ⟨r, hr, rfl⟩ | ⟨frame, frames, place, nodes, rest, hfr, hp, hr⟩
  · rcases finish_lift_error hf with ⟨e, he, hs⟩ | hopen
    · obtain ⟨fault', offset⟩ := e
      simp only [Error.shift, Error.mk.injEq] at hs
      obtain ⟨rfl, hz⟩ := hs
      have hz' : offset = 0 := by omega
      subst hz'
      rw [readOn, hr]
      exact he
    · exact absurd (ho _ hopen) (Nat.lt_irrefl _)
  · rcases isOpen_of_run hr (isOpen_of_finish hf) with (hn | ⟨frame', hm', hp'⟩) | hle
    · cases hn
    · refine absurd (ho outer.offset (.inr ⟨frame', ?_, hp'⟩)) (Nat.lt_irrefl _)
      rw [hfr]
      exact List.mem_cons_of_mem frame hm'
    · exact absurd hle (Nat.not_le.mpr hp)

/-- In front of a construct only braces are lacking. -/
lemma readOn_append_braces (h : start.run limit cs = .ok r) (hm : r.mode.rests) (count : Nat) :
    start.readOn limit (cs ++ braces count) = r.settle.readOn limit (braces count) := by
  rw [readOn_append, h]
  refine readOn_leaves fun c hc => ?_
  cases count with
  | zero => cases hc
  | succ count =>
    cases hc
    exact (Mode.leaves_iff_rests rfl).mpr hm

/-- What is to blame where the source ends too early begins with its braces, fails alone in the same
way, and stands behind a text that only lacks braces. -/
lemma cause_of_finish (h : start.run (some most) cs = .ok r) (hf : r.finish = .error error) :
    ∃ before rest count template, cs = before ++ '$' :: '{' :: rest ∧
      width before = error.offset ∧
      start.readOn (some most) ('$' :: '{' :: rest) = .error ⟨error.fault, 0⟩ ∧ count ≤ most ∧
      start.readOn (some most) (before ++ braces count) = .ok template := by
  obtain ⟨rest, frames, before, last, rfl, hw, hl, hm, _⟩ := begins_of_finish h hf
  have hd : last.settle.frames.length ≤ most := by
    rw [settle_frames]
    exact depth_le_of_run hl
  have hleaves : last.mode.Leaves '$' := (Mode.leaves_iff_rests rfl).mpr hm
  have hb : last.settle.mode = .body := settle_mode_of_rests hm
  obtain ⟨template, ht⟩ :=
    (readOn_closing (some most) hb last.settle.frames.length).1 (Nat.le_refl _)
  refine ⟨before, rest, last.settle.frames.length, template, rfl, hw, ?_, hd, ?_⟩
  -- the settled reader in front of the `$` is the context, and all it holds open begins earlier
  · have ho : last.settle.offset = error.offset := by
      rw [settle_offset, run_offset hl, ← hw]
      exact Nat.zero_add _
    have hr : last.settle.run (some most) ('$' :: '{' :: rest) = .ok r := by
      rw [run_append, hl] at h
      rw [← run_leaves hleaves]
      exact h
    refine finish_eq_error hb hd ?_ hr (ho ▸ hf)
    intro place hp
    have hp' : last.IsOpen place := by
      rcases hp with hp | hp
      · rw [hb] at hp
        cases hp
      · rw [settle_frames] at hp
        exact .inr hp
    rw [settle_offset]
    exact lt_offset_of_isOpen hl hp'
  · rw [readOn_append_braces hl hm, ht]

/-- What is to blame for a character that is refused: the construct, by an index that is too large
or a body that lies too deep, or the character itself. -/
lemma cause_of_take (h : start.run limit cs = .ok r) (ht : r.take limit c = .error error) :
    (∃ before text, cs = before ++ text ∧ width before = error.offset ∧
      (error.fault = .invalidPlaceholder → ∀ rest, IndexTooLarge (text ++ c :: rest))) ∨
    (width cs = error.offset ∧ ∃ e, r.finish = .error e ∧ e.fault.isUnterminated) := by
  cases fails_of_take ht with
  | @index place label hl hc hr =>
    rcases hl with hl | hl
    · obtain ⟨text, hlt, before, _, rfl, hw, _⟩ := begins_of_bare h hl
      exact .inl ⟨before, '$' :: text, rfl, hw, fun _ rest =>
        ⟨text ++ c :: rest, .inl rfl, indexTooLarge_of_extend hlt hc hr⟩⟩
    · obtain ⟨text, hlt, before, _, rfl, hw, _⟩ := begins_of_braced h hl
      exact .inl ⟨before, '$' :: '{' :: text, rfl, hw, fun _ rest =>
        ⟨text ++ c :: rest, .inr rfl, indexTooLarge_of_extend hlt hc hr⟩⟩
  | stray hp hr =>
    rw [run_offset h]
    exact .inr ⟨(Nat.zero_add _).symm, unterminated_of_not_rests hp hr⟩
  | nesting _ hl =>
    obtain ⟨text, _, before, _, rfl, hw, _⟩ := begins_of_braced h hl
    exact .inl ⟨before, '$' :: '{' :: text, rfl, hw, nofun⟩

end Reader

/-- A cut of the characters of a source is a cut of its bytes. -/
lemma cut_ofList {source : String} {before after : List Char} {offset : Nat}
    (hs : source.toList = before ++ after) (hw : width before = offset) (hne : after ≠ []) :
    source = String.ofList before ++ String.ofList after ∧
      (String.ofList before).utf8ByteSize = offset ∧ offset < source.utf8ByteSize := by
  obtain ⟨c, after, rfl⟩ := List.exists_cons_of_ne_nil hne
  refine ⟨?_, ?_, ?_⟩
  · rw [← String.ofList_append, ← hs, String.ofList_toList]
  · rw [← width_toList, String.toList_ofList, hw]
  · have hp := c.utf8Size_pos
    rw [← width_toList, hs, width_append, width_cons, hw]
    omega

/-- The error lies where the source can be cut into these parts. -/
structure Cause (source : String) (error : Error) (before after : String) : Prop where
  cut : source = before ++ after
  /-- The error lies at the first byte of a character of the source. -/
  offset : before.utf8ByteSize = error.offset
  inside : error.offset < source.utf8ByteSize
  /-- Where the source ends too early, what is still open begins at the cut. It fails alone in the
  same way, and what stands in front of it is a template but for closing braces. -/
  unterminated : error.fault.isUnterminated →
    ['$', '{'] <+: after.toList ∧ parse after = .error ⟨error.fault, 0⟩ ∧
      ∃ count ≤ maxNesting, ∃ template,
        parse (before ++ String.ofList (braces count)) = .ok template
  /-- A label at the cut is an index that is too large, or the character at the cut is the first one
  that is not allowed: in front of it the source only ends too early, and behind it the error is
  there. -/
  invalid : error.fault = .invalidPlaceholder →
    IndexTooLarge after.toList ∨
      ∃ c rest e, after.toList = c :: rest ∧ parse before = .error e ∧ e.fault.isUnterminated ∧
        parse (before.push c) = .error error

/-- Every error lies at its cause. -/
theorem parse_error_cause (source : String) (error : Error) (h : parse source = .error error) :
    ∃ before after, Cause source error before after := by
  rcases parse_eq_error h with ⟨hn, hr⟩ | ⟨hu, r, hr⟩
  -- a character is refused
  · obtain ⟨read, c, rest, last, hs, hl, ht⟩ := Reader.run_eq_error hr
    have hf : error.fault.isUnterminated → False := by
      rw [hn]
      exact Bool.false_ne_true
    rcases Reader.cause_of_take hl ht with ⟨before, text, rfl, hw, hi⟩ | ⟨hw, e, he, hu⟩
    · have hs' : source.toList = before ++ (text ++ c :: rest) := by
        rw [hs, List.append_assoc]
      obtain ⟨hcut, hsize, hlt⟩ := cut_ofList hs' hw (by simp)
      refine ⟨_, _, hcut, hsize, hlt, fun hu => absurd hu hf, fun hf => .inl ?_⟩
      rw [String.toList_ofList]
      exact hi hf rest
    · obtain ⟨hcut, hsize, hlt⟩ := cut_ofList hs hw (by simp)
      refine ⟨_, _, hcut, hsize, hlt, fun hu => absurd hu hf, fun _ =>
        .inr ⟨c, rest, e, String.toList_ofList, ?_, hu, ?_⟩⟩
      · rw [parse_ofList, Reader.readOn, hl]
        exact he
      · rw [← String.append_singleton, String.singleton_eq_ofList, ← String.ofList_append,
          parse_ofList, Reader.readOn_append, hl]
        exact Reader.readOn_cons_error ht
  -- the source ends too early
  · obtain ⟨before, rest, count, template, hs, hw, hp, hc, ht⟩ :=
      Reader.cause_of_finish hr (parse_eq_finish hr ▸ h)
    obtain ⟨hcut, hsize, hlt⟩ := cut_ofList hs hw (by simp)
    refine ⟨_, _, hcut, hsize, hlt, fun _ => ⟨?_, ?_, count, hc, template, ?_⟩, fun hf => ?_⟩
    · rw [String.toList_ofList]
      exact ⟨rest, rfl⟩
    · rw [parse_ofList, hp]
    · rw [← String.ofList_append, parse_ofList, ht]
    · rw [hf] at hu
      cases hu

/-- The choice in an open body is to blame behind characters of several bytes, and not the body. -/
theorem parse_error_cause_choice :
    parse "é$\x7b1:$x$\x7b2|a,ü" = .error ⟨.unterminatedChoice, 8⟩ ∧
      ∃ before after, Cause "é$\x7b1:$x$\x7b2|a,ü" ⟨.unterminatedChoice, 8⟩ before after :=
  ⟨rfl, parse_error_cause _ _ rfl⟩

end TucServer.Template
