import TucServer.Proofs.Template.Seams

/-!
# Bodies and templates

The body of a field is a template of its own, and it is read there as it is read alone. A source can
stand as such a body when it is a template, when none of its braces ends the field, and when no
backslash at its end escapes the brace that does (`parse_field_iff`).
-/

namespace TucServer.Template

/-- A body without nodes has no text. -/
lemma eq_nil_of_body {d : Nat} {text rest : List Char} (h : Body d text rest []) : text = [] := by
  generalize e : ([] : Template) = template at h
  cases h with
  | nil => rfl
  | cons => exact absurd e.symm (Node.attach_ne_nil _ _)

namespace Reader

/-- The reader after the opening of a field with this label, at the beginning of a source. -/
def inField (text : List Char) (label : Label) : Reader :=
  ⟨width ('$' :: '{' :: text ++ [':']), .body, [], [⟨0, label, []⟩]⟩

variable {limit : Option Nat} {r : Reader} {text cs : List Char} {label : Label}
variable {template : Template}

/-- The opening of a field at the front of a source is read as far as its body. -/
lemma readOn_inField (h : LabelText text label) (cs : List Char) :
    read (some maxNesting) ('$' :: '{' :: text ++ ':' :: cs) =
      (inField text label).readOn (some maxNesting) cs := by
  have hd : ([] : List Frame).length < maxNesting := by decide
  rw [read_eq_readOn, start, readOn_openBody h hd, Nat.zero_add]
  rfl

/-- Whatever is read leaves something in the template. -/
lemma ne_nil_of_readOn (hne : cs ≠ []) (h : start.readOn (some maxNesting) cs = .ok template) :
    template ≠ [] := by
  rintro rfl
  have hp : parse (String.ofList cs) = .ok [] := by
    rw [parse, String.toList_ofList]
    exact h
  have hb := eq_nil_of_body (body_of_parse hp)
  rw [String.toList_ofList] at hb
  exact hne hb

/-- The brace that ends the field makes one of what has been read of its body. -/
lemma readOn_brace_lift (hm : r.mode.rests) (hf : r.frames = []) :
    ((inField text label).lift r).readOn limit ['}'] =
      .ok [.field label r.settle.nodes.reverse] := by
  have hm' : ((inField text label).lift r).mode.rests := by
    rwa [rests_lift]
  have hf' : ((inField text label).lift r).frames = [⟨0, label, []⟩] := frames_lift hf
  have hs : ((inField text label).lift r).settle.nodes = r.settle.nodes := by
    rw [lift_settle, lift, settle_frames, hf]
    exact List.reverse_reverse r.settle.nodes
  rw [readOn, run_closing hm' hf', hs]
  rfl

/-- A brace ends the last open body only if the construct before it rests. -/
lemma rests_of_readOn_brace (hne : r.frames ≠ []) (h : r.readOn limit ['}'] = .ok template) :
    r.mode.rests ∧ r.frames.length = 1 := by
  obtain ⟨next, ht, hn⟩ := readOn_cons_eq_ok h
  have hf : next.frames = [] := (finish_eq_ok hn).1
  have hs : r.settle.frames ≠ [] := by
    rwa [settle_frames]
  cases moves_of_take ht with
  | closes _ hl he =>
    have hf' := hf
    simp only at hf'
    rw [he, hf']
    exact ⟨(Mode.leaves_iff_rests rfl).mp hl, rfl⟩
  | goesOn | escaped | node => exact absurd hf hne
  | backslash | dollar | text => exact absurd hf hs
  | opens hc => cases hc

/-- A field that has ended before the last brace is not all there is, since the brace is read behind
it. -/
lemma readOn_brace_ne_of_run {next : Reader} {place : Nat} {nodes body : Template}
    (h : run (some maxNesting) ⟨place, .body, [.field label nodes], []⟩ cs = .ok next) :
    next.readOn (some maxNesting) ['}'] ≠ .ok [.field label body] := by
  intro hb
  have hl : readOn (some maxNesting) ⟨place, .body, [.field label nodes], []⟩ (cs ++ ['}']) = _ :=
    readOn_lift (some maxNesting) rfl rfl (cs ++ ['}'])
  rw [readOn_append, h] at hl
  have hl' := hb.symm.trans hl
  cases hs : start.readOn (some maxNesting) (cs ++ ['}']) with
  | error error =>
    rw [hs] at hl'
    cases hl'
  | ok behind =>
    rw [hs] at hl'
    have hj : [.field label body] = (Node.field label nodes).attach behind := Except.ok.inj hl'
    cases behind with
    | nil => exact absurd rfl (ne_nil_of_readOn (by simp) hs)
    | cons => cases hj

/-- A source that is a body of a field is a template, and leaves the field open. -/
lemma reads_of_field {body : Template}
    (h : (inField text label).readOn (some maxNesting) (cs ++ ['}']) = .ok [.field label body]) :
    ∃ r, start.run (some maxNesting) cs = .ok r ∧ r.mode.rests ∧ r.frames = [] ∧
      body = r.settle.nodes.reverse ∧
      (inField text label).run (some maxNesting) cs = .ok ((inField text label).lift r) := by
  rw [readOn_append] at h
  cases ho : (inField text label).run (some maxNesting) cs with
  | error error =>
    rw [ho] at h
    cases h
  | ok next =>
    rw [ho] at h
    have h' : next.readOn (some maxNesting) ['}'] = .ok [.field label body] := h
    have hd : (inField text label).depth ≤ maxNesting := Nat.le_of_ble_eq_true rfl
    rcases run_eq_lift rfl hd ho with ⟨r, hr, rfl⟩ | ⟨_, _, place, nodes, rest, hf, _, hr⟩
    · have hne : ((inField text label).lift r).frames ≠ [] := by
        intro hn
        have hl := congrArg List.length hn
        rw [lift, length_liftFrames] at hl
        simp [inField, depth] at hl
      obtain ⟨hm, hl⟩ := rests_of_readOn_brace hne h'
      rw [rests_lift] at hm
      rw [lift, length_liftFrames] at hl
      have hf : r.frames = [] := by
        apply List.eq_nil_of_length_eq_zero
        simpa [inField, depth] using hl
      rw [readOn_brace_lift hm hf] at h'
      cases h'
      exact ⟨r, hr, hm, hf, rfl, rfl⟩
    · cases hf
      exact absurd h' (readOn_brace_ne_of_run hr)

/-- A template in which no brace ends the field is the body of the field, unless a backslash takes
the brace that follows. -/
lemma field_of_reads {body : Template} (h : start.readOn (some maxNesting) cs = .ok body)
    (ho : (inField text label).readOn (some maxNesting) cs = .error ⟨.unterminatedPlaceholder, 0⟩)
    (he : Even (backslashes cs)) :
    (inField text label).readOn (some maxNesting) (cs ++ ['}']) = .ok [.field label body] := by
  cases hn : (inField text label).run (some maxNesting) cs with
  | error error =>
    rw [readOn, hn] at ho
    cases ho
    cases not_unterminated_of_run hn
  | ok next =>
    rw [readOn, hn] at ho
    have ho' : next.finish = .error ⟨.unterminatedPlaceholder, 0⟩ := ho
    have hd : (inField text label).depth ≤ maxNesting := Nat.le_of_ble_eq_true rfl
    rcases run_eq_lift rfl hd hn with ⟨r, hr, rfl⟩ | ⟨_, _, place, nodes, rest, hf, hp, hr⟩
    · rw [readOn, hr] at h
      obtain ⟨hf, hb, rfl⟩ := finish_eq_ok h
      have hm : r.mode.rests := by
        refine (r.rests_or_escape hb).resolve_right fun hm => ?_
        exact Nat.not_even_iff_odd.mpr ((backslashes_of_run hr).1 hm) he
      rw [readOn_append, hn]
      exact readOn_brace_lift hm hf
    · -- the place of the field is not open any more
      cases hf
      have hz : 0 < place := Nat.zero_lt_of_lt hp
      rcases isOpen_of_run hr (isOpen_of_finish ho') with (hm | ⟨_, hm, _⟩) | hle
      · cases hm
      · cases hm
      · exact absurd hle (Nat.not_le.mpr hz)

end Reader

/-- A source is the body of a field, and the field all there is, exactly when the source is that
template on its own, the field stays open behind it, and the backslashes at its end come in pairs,
so that none of them escapes the brace. -/
theorem parse_field_iff (source : String) (body : Template) {text : List Char} {label : Label}
    (h : LabelText text label) :
    parse ("$\x7b" ++ String.ofList text ++ ":" ++ source ++ "\x7d") = .ok [.field label body] ↔
      parse source = .ok body ∧
        parse ("$\x7b" ++ String.ofList text ++ ":" ++ source) =
          .error ⟨.unterminatedPlaceholder, 0⟩ ∧
        Even (backslashes source.toList) := by
  have field (more : List Char) :
      read (some maxNesting) ('$' :: '{' :: text ++ ':' :: (source.toList ++ more)) =
        (Reader.inField text label).readOn (some maxNesting) (source.toList ++ more) :=
    Reader.readOn_inField h _
  have hopen : parse ("$\x7b" ++ String.ofList text ++ ":" ++ source) =
      (Reader.inField text label).readOn (some maxNesting) source.toList := by
    have hf := field []
    rw [List.append_nil] at hf
    rw [← hf, parse]
    simp
  have hclosed : parse ("$\x7b" ++ String.ofList text ++ ":" ++ source ++ "\x7d") =
      (Reader.inField text label).readOn (some maxNesting) (source.toList ++ ['}']) := by
    rw [← field, parse]
    simp
  rw [hopen, hclosed]
  constructor
  · intro hb
    obtain ⟨r, hr, hm, hf, rfl, ho⟩ := Reader.reads_of_field hb
    refine ⟨?_, ?_, (Reader.backslashes_of_run hr).2 hm⟩
    · rw [parse_eq_finish hr, Reader.finish_of_rests hm hf]
    · have hm' : ((Reader.inField text label).lift r).mode.rests := by
        rwa [Reader.rests_lift]
      rw [Reader.readOn, ho]
      exact Reader.finish_of_open hm' (Reader.frames_lift hf)
  · rintro ⟨hb, ho, he⟩
    exact Reader.field_of_reads hb ho he

/-- A pair of backslashes at the end of a body leaves the brace to the field, and a single one does
not. -/
theorem parse_field_iff_backslashes : ∃ text label, LabelText text label ∧
    parse ("$\x7b" ++ String.ofList text ++ ":" ++ "$x\\\\" ++ "\x7d") =
      .ok [.field label [.field (.name "x") [], .text "\\"]] ∧
    parse ("$\x7b" ++ String.ofList text ++ ":" ++ "$x\\" ++ "\x7d") ≠
      .ok [.field label [.field (.name "x") [], .text "\\"]] := by
  have h : LabelText ['1', '2'] (.index 12) := .index (by decide) (by simp) (by decide)
  refine ⟨['1', '2'], .index 12, h, ?_, ?_⟩
  · exact (parse_field_iff "$x\\\\" _ h).mpr ⟨rfl, rfl, by decide⟩
  · intro hp
    exact absurd ((parse_field_iff "$x\\" _ h).mp hp).2.2 (by decide)

end TucServer.Template
