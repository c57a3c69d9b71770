import TucServer.Proofs.Template.Completeness
import TucServer.Proofs.Template.Steps

/-!
# Reading in a context

What has been read before a body began does not change how the body is read. `outer.lift r` is what
the reader `outer`, which stands in a body, has become when a reader that started anew has become
`r`: the places are shifted, the nodes of `outer` stand in front, and its frames around. A step can
be lifted unless a brace ends the body in which `outer` stands (`take_lift`), and so a run can be
lifted as long as none does (`run_lift`). Outside every body nothing ends it, and then all that is
read is lifted (`readOn_lift`).
-/

namespace TucServer.Template

/-- The same mode, with its construct `k` bytes later. -/
def Mode.shift (k : Nat) : Mode → Mode
  | .body => .body
  | .escape => .escape
  | .dollar place => .dollar (k + place)
  | .bare place label => .bare (k + place) label
  | .brace place => .brace (k + place)
  | .braced place label => .braced (k + place) label
  | .option place index options current => .option (k + place) index options current
  | .optionEscape place index options current => .optionEscape (k + place) index options current
  | .optionEnd place index options => .optionEnd (k + place) index options

/-- The same error `k` bytes later. -/
def Error.shift (k : Nat) (error : Error) : Error :=
  { error with offset := k + error.offset }

namespace Reader

/-- The nodes that stand behind those of `outer`, unless a frame is between them. -/
def liftNodes (outer : Reader) (nodes : List Node) : List Frame → List Node
  | [] => (join outer.nodes.reverse nodes.reverse).reverse
  | _ :: _ => nodes

/-- The frames with those of `outer` around them. -/
def liftFrames (outer : Reader) : List Frame → List Frame
  | [] => outer.frames
  | frame :: frames =>
    ⟨outer.offset + frame.place, frame.label, outer.liftNodes frame.before frames⟩ ::
      outer.liftFrames frames

/-- What `outer` has become when a reader that started anew has become `r`. -/
def lift (outer r : Reader) : Reader :=
  ⟨outer.offset + r.offset, r.mode.shift outer.offset, outer.liftNodes r.nodes r.frames,
    outer.liftFrames r.frames⟩

/-- What `outer` makes of a text of which a reader that started anew makes this. -/
def liftAnswer (outer : Reader) {α β : Type} (f : α → β) (answer : Except Error α) :
    Except Error β :=
  (answer.map f).mapError (Error.shift outer.offset)

variable {limit : Option Nat} {outer r next : Reader} {c : Char} {cs : List Char}

/-- A value is lifted by the function for values. -/
@[simp] lemma liftAnswer_ok {α β : Type} (f : α → β) (a : α) :
    outer.liftAnswer f (.ok a) = .ok (f a) := rfl

/-- An error is lifted by its offset. -/
@[simp] lemma liftAnswer_error {α β : Type} (f : α → β) (error : Error) :
    outer.liftAnswer f (.error error) = .error (error.shift outer.offset) := rfl

/-- What has just started leaves `outer` as it is. -/
lemma lift_start (h : outer.mode = .body) : outer.lift start = outer := by
  obtain ⟨o, _, ns, fs⟩ := outer
  subst h
  simp [lift, start, Mode.shift, liftNodes, liftFrames]

/-- The bodies of `outer` are open around the others. -/
lemma length_liftFrames (frames : List Frame) :
    (outer.liftFrames frames).length = outer.depth + frames.length := by
  induction frames with
  | nil => rfl
  | cons frame frames ih => rw [liftFrames, List.length_cons, ih, List.length_cons, Nat.add_assoc]

/-- A construct rests in a context if it rests. -/
@[simp] lemma rests_lift : (outer.lift r).mode.rests = r.mode.rests := by
  obtain ⟨o, mode, ns, fs⟩ := r
  cases mode <;> rfl

/-- Where no other body is open, those of `outer` are. -/
lemma frames_lift (h : r.frames = []) : (outer.lift r).frames = outer.frames := by
  rw [lift, h]
  rfl

/-- Nodes that are added to those of the reader are added behind those of `outer`. -/
lemma liftNodes_join (nodes more : List Node) (frames : List Frame) :
    outer.liftNodes (join nodes.reverse more).reverse frames =
      (join (outer.liftNodes nodes frames).reverse more).reverse := by
  cases frames with
  | nil => simp only [liftNodes, List.reverse_reverse, join_assoc]
  | cons frame frames => rfl

/-- A character that is added is added behind the nodes of `outer`. -/
lemma liftNodes_addChar (nodes : List Node) (frames : List Frame) :
    outer.liftNodes (addChar nodes c) frames = addChar (outer.liftNodes nodes frames) c := by
  rw [addChar_eq, addChar_eq, liftNodes_join]

/-- A node that is no text is added behind the nodes of `outer`. -/
lemma liftNodes_cons (node : Node) (h : node.isText = false) (nodes : List Node)
    (frames : List Frame) :
    outer.liftNodes (node :: nodes) frames = node :: outer.liftNodes nodes frames := by
  rw [cons_eq_join node h nodes, liftNodes_join, ← cons_eq_join node h]

/-- A character that is text alone is text in a context. -/
lemma lift_char : (outer.lift r).char c = outer.lift (r.char c) := by
  simp only [lift, char, Mode.shift, liftNodes_addChar]

/-- A node that ends alone ends in a context. -/
lemma lift_node (node : Node) (h : node.isText = false) :
    (outer.lift r).node node = outer.lift (r.node node) := by
  simp only [lift, Reader.node, Mode.shift, liftNodes_cons node h]

/-- A construct settles in a context as it does alone. -/
lemma lift_settle : (outer.lift r).settle = outer.lift r.settle := by
  obtain ⟨o, mode, ns, fs⟩ := r
  cases mode with
  | escape => exact lift_char
  | dollar => exact lift_char
  | bare place label => exact lift_node (.field label []) rfl
  | _ => rfl

/-- A brace closes the same body, unless it is the one in which `outer` stands. -/
lemma lift_closeBody (h : outer.frames = [] ∨ r.frames ≠ []) :
    (outer.lift r).closeBody = outer.lift r.closeBody := by
  obtain ⟨o, mode, ns, fs⟩ := r
  cases fs with
  | nil =>
    have ho : outer.frames = [] := h.resolve_right fun hn => hn rfl
    have hf : (outer.lift ⟨o, mode, ns, []⟩).frames = [] := ho
    have hc : ∀ r : Reader, r.frames = [] → r.closeBody = r.char '}' := by
      intro r hr
      rw [closeBody, hr]
    rw [hc _ hf, hc _ rfl, lift_char]
  | cons frame fs =>
    show (⟨outer.offset + o, .body, .field frame.label ns.reverse ::
      outer.liftNodes frame.before fs, outer.liftFrames fs⟩ : Reader) = ⟨outer.offset + o, .body,
      outer.liftNodes (.field frame.label ns.reverse :: frame.before) fs, outer.liftFrames fs⟩
    rw [liftNodes_cons _ rfl]

/-- A body takes the same character alike, unless that is the brace that ends the body of the
context. -/
lemma lift_inBody (h : outer.frames = [] ∨ c ≠ '}' ∨ r.frames ≠ []) :
    (outer.lift r).inBody c = outer.lift (r.inBody c) := by
  by_cases hc : c = '}'
  · simp only [inBody, hc, if_true]
    exact lift_closeBody (h.imp_right fun h => h.resolve_left fun hn => hn hc)
  simp only [inBody, hc, if_false]
  split
  · rfl
  · split
    · rfl
    · exact lift_char

/-- A body opens in a context below a limit that is higher by the depth of the context. -/
lemma lift_openBody (limit : Option Nat) (outer r : Reader) (place : Nat) (label : Label) :
    (outer.lift r).openBody (limit.map (outer.depth + ·)) (outer.offset + place) label =
      outer.liftAnswer outer.lift (r.openBody limit place label) := by
  have hd : (limit.map (outer.depth + ·)).any (· ≤ (outer.lift r).depth) =
      limit.any (· ≤ r.depth) := by
    have hl : (outer.lift r).depth = outer.depth + r.depth := length_liftFrames r.frames
    cases limit <;> simp [hl]
  simp only [openBody, hd]
  split <;> rfl

/-- A label is in range in a context if it is. -/
lemma lift_inLabel (outer r : Reader) (place : Nat) (label : Label) (mode : Mode) :
    (outer.lift r).inLabel (outer.offset + place) label (mode.shift outer.offset) =
      outer.liftAnswer outer.lift (r.inLabel place label mode) := by
  simp only [inLabel]
  split <;> rfl

/-- A label in braces ends in a context as it does alone. -/
lemma lift_afterBraced (limit : Option Nat) (outer r : Reader) (place : Nat) (label : Label)
    (c : Char) :
    (outer.lift r).afterBraced (limit.map (outer.depth + ·)) (outer.offset + place) label c =
      outer.liftAnswer outer.lift (r.afterBraced limit place label c) := by
  simp only [afterBraced]
  split
  · exact congrArg Except.ok (lift_node (.field label []) rfl)
  · split
    · exact lift_openBody limit outer r place label
    · cases label with
      | index value => by_cases hc : c = '|' <;> simp only [hc, if_true, if_false] <;> rfl
      | name value => rfl

/-- A character of an option is read alike in a context. -/
lemma lift_inOption (outer r : Reader) (place index : Nat) (options : List String)
    (current : String) (c : Char) :
    (outer.lift r).inOption (outer.offset + place) index options current c =
      outer.lift (r.inOption place index options current c) := by
  simp only [inOption]
  repeat' split
  all_goals rfl

/-- A step is the same in a context that it does not leave. -/
lemma take_lift (limit : Option Nat)
    (h : outer.frames = [] ∨ ¬ (c = '}' ∧ r.mode.rests ∧ r.frames = [])) :
    (outer.lift r).take (limit.map (outer.depth + ·)) c =
      outer.liftAnswer outer.lift (r.take limit c) := by
  -- where the character is left to the body, no brace ends the body of the context
  have settled (hr : r.mode.rests ∨ c ≠ '}') :
      (outer.lift r).settle.inBody c = outer.lift (r.settle.inBody c) := by
    rw [lift_settle, lift_inBody]
    rw [settle_frames]
    by_cases hc : c = '}'
    · refine h.imp_right fun hn => .inr fun hf => hn ⟨hc, ?_, hf⟩
      exact hr.resolve_right fun hn => hn hc
    · exact .inr (.inl hc)
  obtain ⟨o, mode, ns, fs⟩ := r
  cases mode with
  | body => exact congrArg Except.ok (settled (.inl rfl))
  | escape =>
    by_cases hc : escapable c
    · simp only [take, hc, if_true]
      exact congrArg Except.ok lift_char
    · have hb : c ≠ '}' := by
        rintro rfl
        exact hc rfl
      simp only [take, lift, Mode.shift, hc]
      exact congrArg Except.ok (settled (.inr hb))
  | dollar place =>
    by_cases hc : c = '{'
    · subst hc
      rfl
    · cases hs : Label.start? c with
      | some label =>
        simp only [take, lift, Mode.shift, hc, hs, if_false]
        rfl
      | none =>
        simp only [take, lift, Mode.shift, hc, hs, if_false]
        exact congrArg Except.ok (settled (.inl rfl))
  | bare place label =>
    by_cases hc : label.continues c
    · simp only [take, lift, Mode.shift, hc, if_true]
      exact lift_inLabel outer ⟨o, _, ns, fs⟩ place _ (.bare place (label.extend c))
    · simp only [take, lift, Mode.shift, hc]
      exact congrArg Except.ok (settled (.inl rfl))
  | brace place =>
    cases hs : Label.start? c with
    | some label =>
      simp only [take, lift, Mode.shift, hs]
      rfl
    | none =>
      simp only [take, lift, Mode.shift, hs]
      rfl
  | braced place label =>
    by_cases hc : label.continues c
    · simp only [take, lift, Mode.shift, hc, if_true]
      exact lift_inLabel outer ⟨o, _, ns, fs⟩ place _ (.braced place (label.extend c))
    · simp only [take, lift, Mode.shift, hc]
      exact lift_afterBraced limit outer ⟨o, _, ns, fs⟩ place label c
  | option place index options current =>
    exact congrArg Except.ok (lift_inOption outer ⟨o, _, ns, fs⟩ place index options current c)
  | optionEscape place index options current =>
    by_cases hc : optionEscapable c
    · simp only [take, lift, Mode.shift, hc, if_true]
      rfl
    · simp only [take, lift, Mode.shift, hc]
      exact congrArg Except.ok (lift_inOption outer ⟨o, _, ns, fs⟩ place index options _ c)
  | optionEnd place index options =>
    by_cases hc : c = '}'
    · simp only [take, lift, Mode.shift, hc, if_true]
      exact congrArg Except.ok (@lift_node outer ⟨o, _, ns, fs⟩ (.choice index options.reverse) rfl)
    · simp only [take, lift, Mode.shift, hc, if_false]
      rfl

/-- A brace in the text ends the body in which `outer` stands. What stands before that brace has
been read as `last`. -/
def EndsBody (limit : Option Nat) (outer r : Reader) (cs : List Char) : Prop :=
  ∃ body rest last, cs = body ++ '}' :: rest ∧ r.run limit body = .ok last ∧
    (outer.lift r).run (limit.map (outer.depth + ·)) body = .ok (outer.lift last) ∧
    last.mode.rests ∧ last.frames = [] ∧ outer.frames ≠ []

/-- A run is the same in a context up to the brace that ends the body of the context. -/
lemma run_lift (limit : Option Nat) (outer r : Reader) (cs : List Char) :
    (outer.lift r).run (limit.map (outer.depth + ·)) cs =
      outer.liftAnswer outer.lift (r.run limit cs) ∨ EndsBody limit outer r cs := by
  induction cs generalizing r with
  | nil => exact .inl rfl
  | cons c cs ih =>
    by_cases h : outer.frames = [] ∨ ¬ (c = '}' ∧ r.mode.rests ∧ r.frames = [])
    · have hl := take_lift limit h
      cases ht : r.take limit c with
      | error error =>
        rw [ht, liftAnswer_error] at hl
        rw [run_cons, run_cons, step_error ht, step_error hl]
        exact .inl rfl
      | ok next =>
        rw [ht, liftAnswer_ok] at hl
        have hs : (⟨outer.offset + r.offset + c.utf8Size, (outer.lift next).mode,
            (outer.lift next).nodes, (outer.lift next).frames⟩ : Reader) =
            outer.lift { next with offset := r.offset + c.utf8Size } := by
          rw [Nat.add_assoc]
          rfl
        have hr : (outer.lift r).step (limit.map (outer.depth + ·)) c =
            .ok (outer.lift { next with offset := r.offset + c.utf8Size }) :=
          (step_ok hl).trans (congrArg Except.ok hs)
        rcases ih { next with offset := r.offset + c.utf8Size } with hi | hi
        · rw [run_cons, run_cons, hr, step_ok ht]
          exact .inl hi
        · obtain ⟨body, rest, last, rfl, hb, ho, hm, hf, hn⟩ := hi
          refine .inr ⟨c :: body, rest, last, rfl, ?_, ?_, hm, hf, hn⟩
          · rw [run_cons, step_ok ht]
            exact hb
          · rw [run_cons, hr]
            exact ho
    · obtain ⟨hn, hc⟩ := not_or.mp h
      obtain ⟨rfl, hm, hf⟩ := not_not.mp hc
      exact .inr ⟨[], cs, r, rfl, rfl, rfl, hm, hf, hn⟩

/-- After the brace the field that has ended stands in the body around it. -/
lemma EndsBody.run_eq (h : EndsBody limit outer r cs) :
    ∃ frame frames place nodes rest, outer.frames = frame :: frames ∧ outer.offset < place ∧
      (outer.lift r).run (limit.map (outer.depth + ·)) cs =
        run (limit.map (outer.depth + ·)) ⟨place, .body, .field frame.label nodes :: frame.before,
          frames⟩ rest := by
  obtain ⟨body, rest, last, rfl, _, ho, hm, hl, hn⟩ := h
  obtain ⟨frame, frames, hf⟩ := List.exists_cons_of_ne_nil hn
  have hm' : (outer.lift last).mode.rests := by
    rwa [rests_lift]
  have hf' : (outer.lift last).frames = frame :: frames := by
    rwa [frames_lift hl]
  refine ⟨frame, frames, (outer.lift last).offset + '}'.utf8Size,
    (outer.lift last).settle.nodes.reverse, rest, hf, ?_, ?_⟩
  · have hp := '}'.utf8Size_pos
    have ho : (outer.lift last).offset = outer.offset + last.offset := rfl
    omega
  · rw [run_append, ho]
    exact run_closing hm' hf'

/-- A run in a context is a run from the start, or it ends the body of the context and goes on in
the body around it. -/
lemma run_eq_lift {most : Nat} (hm : outer.mode = .body) (hd : outer.depth ≤ most)
    (h : outer.run (some most) cs = .ok next) :
    (∃ r, start.run (some most) cs = .ok r ∧ next = outer.lift r) ∨
      ∃ frame frames place nodes rest, outer.frames = frame :: frames ∧ outer.offset < place ∧
        run (some most) ⟨place, .body, .field frame.label nodes :: frame.before, frames⟩ rest =
          .ok next := by
  -- the context takes its depth from the limit
  have hl : (some (most - outer.depth)).map (outer.depth + ·) = some most := by
    rw [Option.map_some, Nat.add_sub_cancel' hd]
  rcases run_lift (some (most - outer.depth)) outer start cs with hr | he
  · rw [lift_start hm, hl, h] at hr
    cases hs : start.run (some (most - outer.depth)) cs with
    | error error =>
      rw [hs] at hr
      cases hr
    | ok r =>
      rw [hs] at hr
      refine .inl ⟨r, ?_, Except.ok.inj hr⟩
      -- what the lower limit does not refuse is read alike below the full one
      rw [← hs]
      refine run_looser ?_ fun place hp => ?_
      · intro depth ha
        simp only [Option.any_some, decide_eq_true_eq] at ha ⊢
        omega
      · rw [hs] at hp
        cases hp
  · obtain ⟨frame, frames, place, nodes, rest, hf, hp, hr⟩ := he.run_eq
    rw [lift_start hm, hl, h] at hr
    exact .inr ⟨frame, frames, place, nodes, rest, hf, hp, hr.symm⟩

/-- Outside every body the end of the source is the same in a context. -/
lemma finish_lift (h : outer.frames = []) :
    (outer.lift r).finish = outer.liftAnswer (join outer.nodes.reverse) r.finish := by
  have body (o : Nat) (ns : List Node) (fs : List Frame) :
      (outer.lift ⟨o, .body, ns, fs⟩).finish =
        outer.liftAnswer (join outer.nodes.reverse) (finish ⟨o, .body, ns, fs⟩) := by
    cases fs with
    | nil => simp [lift, Mode.shift, liftFrames, liftNodes, finish, settle, h]
    | cons frame fs => rfl
  obtain ⟨o, mode, ns, fs⟩ := r
  cases mode with
  | body => exact body o ns fs
  | escape =>
    rw [← finish_settle, lift_settle, ← finish_settle]
    exact body o (addChar ns '\\') fs
  | dollar =>
    rw [← finish_settle, lift_settle, ← finish_settle]
    exact body o (addChar ns '$') fs
  | bare place label =>
    rw [← finish_settle, lift_settle, ← finish_settle]
    exact body o (.field label [] :: ns) fs
  | _ => rfl

/-- Outside every body the rest of a source is read as a source of its own. -/
lemma readOn_lift (limit : Option Nat) (hm : outer.mode = .body) (hf : outer.frames = [])
    (cs : List Char) :
    outer.readOn limit cs =
      outer.liftAnswer (join outer.nodes.reverse) (start.readOn limit cs) := by
  have hl : limit.map (outer.depth + ·) = limit := by
    cases limit <;> simp [depth, hf]
  have hr : (outer.lift start).run (limit.map (outer.depth + ·)) cs =
      outer.liftAnswer outer.lift (start.run limit cs) := by
    refine (run_lift limit outer start cs).resolve_right ?_
    intro he
    obtain ⟨_, _, _, _, _, hn, _⟩ := he.run_eq
    rw [hf] at hn
    cases hn
  rw [lift_start hm, hl] at hr
  rw [readOn, readOn, hr]
  cases start.run limit cs with
  | error error => rfl
  | ok r => exact finish_lift hf

end Reader

end TucServer.Template
