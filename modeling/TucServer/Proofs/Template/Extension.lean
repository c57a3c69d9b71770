import TucServer.Proofs.Template.Steps

/-!
# Sources that go on

Every source that a reader gets through can be completed: `ending` ends the construct that is being
read and then the open bodies, whatever the reader holds (`readOn_ending`). An error of a step, on
the other hand, stays whatever follows. Since steps and the end of a source have different faults
(`not_unterminated_of_run`, `unterminated_of_finish`), the fault of an error says whether the source
is the beginning of a template.
-/

namespace TucServer.Template

/-- Characters that lead from the mode back to the body. -/
def Mode.ending : Mode → List Char
  | .body => []
  | .escape | .dollar _ | .bare _ _ => [' ']
  | .brace _ => ['0', '}']
  | .braced _ _ => ['}']
  | .option .. => ['|', '}']
  | .optionEscape .. => [' ', '|', '}']
  | .optionEnd .. => ['}']

/-- As many closing braces. -/
def braces (count : Nat) : List Char :=
  List.replicate count '}'

namespace Reader

variable {limit : Option Nat} {r next : Reader} {c : Char} {cs : List Char} {error : Error}

/-- Characters that end everything that is open. -/
def ending (r : Reader) : List Char :=
  r.mode.ending ++ List.replicate r.frames.length '}'

/-- The characters that end a construct are taken whatever the limit, and end no body. -/
lemma run_mode_ending (limit : Option Nat) (r : Reader) :
    ∃ next, r.run limit r.mode.ending = .ok next ∧ next.mode = .body ∧ next.frames = r.frames := by
  obtain ⟨o, mode, ns, fs⟩ := r
  cases mode with
  | bare place label => cases label <;> exact ⟨_, rfl, rfl, rfl⟩
  | braced place label => cases label <;> exact ⟨_, rfl, rfl, rfl⟩
  | _ => exact ⟨_, rfl, rfl, rfl⟩

/-- Closing braces end a template when there are as many as open bodies or more, and otherwise leave
a body open. -/
lemma readOn_closing (limit : Option Nat) (hr : r.mode = .body) (count : Nat) :
    (r.frames.length ≤ count → ∃ template, r.readOn limit (braces count) = .ok template) ∧
    (count < r.frames.length →
      ∃ place, r.readOn limit (braces count) = .error ⟨.unterminatedPlaceholder, place⟩) := by
  obtain ⟨o, _, ns, fs⟩ := r
  cases hr
  induction count generalizing o ns fs with
  | zero =>
    cases fs with
    | nil => exact ⟨fun _ => ⟨ns.reverse, rfl⟩, fun h => absurd h (Nat.not_lt_zero _)⟩
    | cons frame fs =>
      exact ⟨fun h => absurd h (Nat.not_succ_le_zero _), fun _ => ⟨frame.place, rfl⟩⟩
  | succ count ih =>
    rw [braces, List.replicate_succ, readOn_cons rfl]
    cases fs with
    | nil =>
      obtain ⟨template, ht⟩ := (ih (o + '}'.utf8Size) (addChar ns '}') []).1 (Nat.zero_le count)
      exact ⟨fun _ => ⟨template, ht⟩, fun h => absurd h (Nat.not_lt_zero _)⟩
    | cons frame fs =>
      have hi := ih (o + '}'.utf8Size) (.field frame.label ns.reverse :: frame.before) fs
      exact ⟨fun h => hi.1 (Nat.le_of_succ_le_succ h), fun h => hi.2 (Nat.lt_of_succ_lt_succ h)⟩

/-- Whatever a reader holds, its ending makes a template of it. -/
lemma readOn_ending (limit : Option Nat) (r : Reader) :
    ∃ template, r.readOn limit r.ending = .ok template := by
  obtain ⟨next, hn, hm, hf⟩ := r.run_mode_ending limit
  obtain ⟨template, ht⟩ := (readOn_closing limit hm next.frames.length).1 (Nat.le_refl _)
  refine ⟨template, ?_⟩
  rw [ending, readOn_append, hn, ← hf]
  exact ht

/-- A step does not fail because something is open. -/
lemma not_unterminated_of_run (h : r.run limit cs = .error error) :
    error.fault.isUnterminated = false := by
  obtain ⟨_, _, _, _, _, _, ht⟩ := run_eq_error h
  cases fails_of_take ht <;> rfl

end Reader

/-- The reader after a source that no step refuses. -/
def readThrough (source : String) : Except Error Reader :=
  Reader.start.run (some maxNesting) source.toList

/-- A source that goes on is read on with by the reader behind it. -/
lemma parse_append (source more : String) :
    parse (source ++ more) =
      readThrough source >>= (Reader.readOn (some maxNesting) · more.toList) := by
  rw [parse, Reader.read_eq_readOn, String.toList_append, Reader.readOn_append]
  rfl

/-- The answer to a source is what its last reader finishes with. -/
lemma parse_eq_finish {source : String} {r : Reader} (h : readThrough source = .ok r) :
    parse source = r.finish := by
  rw [parse, read]
  exact congrArg (· >>= Reader.finish) h

/-- A step that refuses its character decides. -/
lemma parse_eq_error_of_readThrough {source : String} {error : Error}
    (h : readThrough source = .error error) : parse source = .error error := by
  rw [parse, read]
  exact congrArg (· >>= Reader.finish) h

/-- A template is what the last reader finishes with. -/
lemma parse_eq_ok {source : String} {template : Template} (h : parse source = .ok template) :
    ∃ r, readThrough source = .ok r ∧ r.finish = .ok template := by
  cases hr : readThrough source with
  | error error =>
    rw [parse_eq_error_of_readThrough hr] at h
    cases h
  | ok r => exact ⟨r, rfl, parse_eq_finish hr ▸ h⟩

/-- An error lies in a character that was read, or in the end of the source. -/
lemma parse_eq_error {source : String} {error : Error} (h : parse source = .error error) :
    (error.fault.isUnterminated = false ∧ readThrough source = .error error) ∨
    (error.fault.isUnterminated ∧ ∃ r, readThrough source = .ok r) := by
  cases hr : readThrough source with
  | error e =>
    rw [parse_eq_error_of_readThrough hr] at h
    cases h
    exact .inl ⟨Reader.not_unterminated_of_run hr, rfl⟩
  | ok r =>
    rw [parse_eq_finish hr] at h
    exact .inr ⟨Reader.unterminated_of_finish h, r, rfl⟩

/-- A source that is given by its characters is read on with from the start. -/
lemma parse_ofList (cs : List Char) :
    parse (String.ofList cs) = Reader.start.readOn (some maxNesting) cs := by
  rw [parse, String.toList_ofList, Reader.read_eq_readOn]

/-- A source in which something is open is the beginning of a template. -/
lemma exists_parse_append {source : String} {error : Error} (h : parse source = .error error)
    (hu : error.fault.isUnterminated) : ∃ more template, parse (source ++ more) = .ok template := by
  rcases parse_eq_error h with ⟨hn, _⟩ | ⟨_, r, hr⟩
  · rw [hn] at hu
    cases hu
  · obtain ⟨template, ht⟩ := r.readOn_ending (some maxNesting)
    refine ⟨String.ofList r.ending, template, ?_⟩
    rw [parse_append, hr, String.toList_ofList]
    exact ht

/-- Any other error stays whatever follows. -/
lemma parse_append_error {source : String} {error : Error} (h : parse source = .error error)
    (hn : error.fault.isUnterminated = false) (more : String) :
    parse (source ++ more) = .error error := by
  rcases parse_eq_error h with ⟨_, hr⟩ | ⟨hu, _⟩
  · rw [parse_append, hr]
    rfl
  · rw [hn] at hu
    cases hu

/-- The fault of an error says whether more can mend the source: an unterminated source can be
completed, and any other error stays the same however the source goes on. So the beginnings of
templates are the templates and the unterminated sources. -/
theorem unterminated_iff_extends (source : String) :
    (∀ error, parse source = .error error → error.fault.isUnterminated →
      ∃ more template, parse (source ++ more) = .ok template) ∧
    (∀ error, parse source = .error error →
      error.fault = .invalidPlaceholder ∨ error.fault = .nestingTooDeep →
        ∀ more, parse (source ++ more) = .error error) ∧
    ((∃ more template, parse (source ++ more) = .ok template) ↔
      (∃ template, parse source = .ok template) ∨
        ∃ error, parse source = .error error ∧ error.fault.isUnterminated) := by
  refine ⟨?_, ?_, ?_, ?_⟩
  · intro error h hu
    exact exists_parse_append h hu
  · intro error h hf more
    apply parse_append_error h
    rcases hf with hf | hf
    · rw [hf]
      rfl
    · rw [hf]
      rfl
  · rintro ⟨more, template, h⟩
    cases hp : parse source with
    | ok template => exact .inl ⟨template, rfl⟩
    | error error =>
      cases hu : error.fault.isUnterminated with
      | true => exact .inr ⟨error, rfl, hu⟩
      | false =>
        rw [parse_append_error hp hu] at h
        cases h
  · rintro (⟨template, h⟩ | ⟨error, h, hu⟩)
    · refine ⟨"", template, ?_⟩
      rwa [String.append_empty]
    · exact exists_parse_append h hu

/-- A body that is open can be completed, and a character that no field allows stays an error. -/
theorem unterminated_iff_extends_field :
    (∃ more template, parse ("a $\x7b1:b\\" ++ more) = .ok template) ∧
      parse ("$\x7b1#" ++ "\x7d") = .error ⟨.invalidPlaceholder, 3⟩ :=
  ⟨(unterminated_iff_extends "a $\x7b1:b\\").1 ⟨.unterminatedPlaceholder, 2⟩ rfl rfl,
    (unterminated_iff_extends "$\x7b1#").2.1 ⟨.invalidPlaceholder, 3⟩ rfl (.inl rfl) "\x7d"⟩

end TucServer.Template
