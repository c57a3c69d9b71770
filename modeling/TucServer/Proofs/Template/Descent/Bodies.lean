import TucServer.Proofs.Template.Descent.Answers

/-!
# Bodies in a descent

The procedures that read the nodes of a body call each other through the bodies of the fields among
them. With less than `n` characters ahead, `n` calls suffice (`Below source n`). Each procedure is
taken with this assumption on the bodies that it can come to, and `below_all` is the induction.
-/

namespace TucServer.Template

namespace Descent

open Reader

variable {source : String} {s s' t : Cursor} {rest rest' after : List Char} {c : Char}
variable {place n o p : Nat} {label : Label} {mode : Mode} {ns : List Node} {fs : List Frame}
variable {limit : Option Nat}

/-- What a reader makes of the end of a body with these nodes: the template, or a field in the body
around it. -/
def closing (t : Cursor) (after : List Char) (fs : List Frame) (body : Template) :
    Except Error Template :=
  match fs with
  | [] => .ok body
  | frame :: fs =>
    readOn (some maxNesting) ⟨t.pos, .body, .field frame.label body :: frame.before, fs⟩ after

/-- The answer is the reader's at the end of the body, and the cursor has moved behind the brace if
it is the body of a field that ends. -/
structure ReadsBody (place? : Option Nat) (nodes : List Node) (s : Cursor) (rest : List Char)
    (answer : Except Error Template) (t : Cursor) (after : List Char) : Prop where
  moves : place?.isSome → ∀ body, answer = .ok body → after.length < rest.length
  agrees : ∀ fs, fs.length = s.depth.level → fs.head?.map Frame.place = place? →
    readOn (some maxNesting) ⟨s.pos, .body, nodes, fs⟩ rest = answer >>= closing t after fs

/-- With less than so many characters ahead, so many calls suffice for a body. -/
def Below (source : String) (n : Nat) : Prop :=
  ∀ {s rest place? nodes}, s.At source rest → rest.length < n →
    Answers (elementsFrom source n place? nodes) s rest (ReadsBody place? nodes s rest)

/-- The call for the nodes of a body is counted while it lasts. -/
lemma elements_eq {place? : Option Nat} {template : Except Error Template}
    (h : elementsFrom source n place? [] s.enter = some (.ok (template, t))) :
    elements source n place? s = some (.ok (template, t.leave)) := by
  rw [elements, bind_eq (modify_eq Cursor.enter), bind_eq h]
  rfl

/-- At the limit no body is read. -/
lemma nested_eq_deep (hd : maxNesting ≤ s.depth.level) :
    nested source n place s = some (.ok (.error ⟨.nestingTooDeep, place⟩, s)) := by
  rw [nested, bind_eq get_eq, if_pos hd]
  rfl

/-- Below the limit a body is read one level deeper. -/
lemma nested_eq {template : Except Error Template} (hd : s.depth.level < maxNesting)
    (h : elements source n (some place) s.deepen = some (.ok (template, t))) :
    nested source n place s = some (.ok (template, t.emerge)) := by
  rw [nested, bind_eq get_eq, if_neg (Nat.not_le.mpr hd),
    bind_eq (modify_eq Cursor.deepen), bind_eq h]
  rfl

/-- The counts are raised around a body and lowered behind it. -/
lemma passes_nested (hd : s.depth.level < maxNesting) (h : s.deepen.enter.Passes rest t after) :
    s.Passes rest t.leave.emerge after := by
  obtain ⟨text, depth, calls, deepest, most⟩ := h
  simp only [Cursor.deepen, Cursor.enter, Gauge.raise] at depth calls deepest most
  refine ⟨text, ?_, ?_, ?_, ?_⟩ <;> simp only [Cursor.leave, Cursor.emerge, Gauge.lower] <;> omega

/-- Below the limit the reader opens a body. -/
lemma openBody_of_lt (h : fs.length < maxNesting) :
    openBody (some maxNesting) ⟨o, mode, ns, fs⟩ p label =
      .ok ⟨o, .body, [], ⟨p, label, ns⟩ :: fs⟩ := by
  simp [openBody, Reader.depth, Nat.not_le.mpr h]

/-- At the limit the reader refuses to. -/
lemma openBody_of_le (h : maxNesting ≤ fs.length) :
    openBody (some maxNesting) ⟨o, mode, ns, fs⟩ p label = .error ⟨.nestingTooDeep, p⟩ := by
  simp [openBody, Reader.depth, h]

/-- The body of a field is read as the reader reads it from its opening on, or refused with the same
error. -/
lemma nested_answers (place : Nat) (below : Below source n) (h : s.At source rest)
    (hn : rest.length < n) :
    Answers (nested source n place) s rest fun answer t after =>
      (∀ body, answer = .ok body → after.length < rest.length) ∧
      ∀ label ns fs, fs.length = s.depth.level →
        openBody (some maxNesting) ⟨s.pos, .body, ns, fs⟩ place label >>=
            (readOn (some maxNesting) · rest) =
          answer >>= fun body =>
            readOn (some maxNesting) ⟨t.pos, .body, .field label body :: ns, fs⟩ after := by
  by_cases hd : s.depth.level < maxNesting
  · have body : Answers (elementsFrom source n (some place) []) s.deepen.enter rest
        (ReadsBody (some place) [] s.deepen.enter rest) := below h hn
    obtain ⟨answer, t, after, ht, hp, hr⟩ := body
    refine ⟨answer, t.leave.emerge, after, nested_eq hd (elements_eq ht), passes_nested hd hp,
      hr.moves rfl, ?_⟩
    intro label ns fs hf
    rw [openBody_of_lt (hf ▸ hd)]
    exact hr.agrees (⟨place, label, ns⟩ :: fs) (congrArg (· + 1) hf) rfl
  · have hd' := Nat.le_of_not_lt hd
    refine ⟨_, s, rest, nested_eq_deep hd', .refl, nofun, ?_⟩
    intro label ns fs hf
    rw [openBody_of_le (hf ▸ hd')]
    rfl

/-- A character that is no part of the label ends it. -/
lemma take_braced (h : label.continues c = false) :
    take limit ⟨o, .braced p label, ns, fs⟩ c =
      afterBraced limit ⟨o, .braced p label, ns, fs⟩ p label c := by
  simp [take, h]

/-- A colon behind a label opens its body. -/
lemma readOn_colon :
    readOn (some maxNesting) ⟨o, .braced p label, ns, fs⟩ (':' :: rest) =
      openBody (some maxNesting) ⟨o + ':'.utf8Size, .body, ns, fs⟩ p label >>=
        (readOn (some maxNesting) · rest) := by
  have htake : take (some maxNesting) ⟨o, .braced p label, ns, fs⟩ ':' =
      openBody (some maxNesting) ⟨o, .braced p label, ns, fs⟩ p label := by
    cases label <;> rfl
  rcases Nat.lt_or_ge fs.length maxNesting with hd | hd
  · rw [openBody_of_lt hd] at htake ⊢
    exact readOn_cons htake
  · rw [openBody_of_le hd] at htake ⊢
    exact readOn_cons_error htake

/-- What follows the label of a field in braces is read as the reader reads it. -/
lemma labelled_answers (place : Nat) (label : Label) (below : Below source n)
    (h : s.At source rest) (hn : rest.length < n) (hl : NoneAhead (label.continues ·) rest) :
    Answers (labelled source n place label) s rest
      (Reads (.braced place label) s rest fun node ns => node :: ns) := by
  rw [labelled]
  refine .bind (peek_eq h) .refl ?_
  match rest with
  | [] => exact .pure (.refused fun _ _ => rfl)
  | c :: rest =>
    have shorter : rest.length < n := Nat.lt_of_succ_lt hn
    have ends : label.continues c = false := Bool.eq_false_iff.mpr (hl c rfl)
    dsimp only [List.head?_cons]
    split
    case isTrue hb =>
      subst hb
      refine .bind (bump_eq h) .skip (.pure ⟨fun _ _ => Nat.lt_succ_self _, fun ns fs _ => ?_⟩)
      exact readOn_cons (take_braced ends)
    case isFalse hb =>
      split
      case isTrue hc =>
        subst hc
        refine .bind (bump_eq h) .skip ((nested_answers place below h.skip shorter).returns ?_)
        rintro answer t after ⟨moves, agrees⟩
        refine Reads.map ⟨?_, ?_⟩
        · exact fun body hb => Nat.lt_succ_of_lt (moves body hb)
        · exact fun ns fs hf => readOn_colon.trans (agrees label ns fs hf)
      case isFalse hc =>
        cases label with
        | index value =>
          dsimp only
          split
          case isTrue hp =>
            subst hp
            refine .bind (bump_eq h) .skip ?_
            exact (optionsFrom_answers place value [] "" h.skip shorter).returns
              fun hr => (hr.before .skip fun ns fs => readOn_mode rfl).map
          case isFalse hp =>
            refine .bind get_eq .refl (.pure (.refused fun ns fs => readOn_cons_error ?_))
            rw [take_braced ends]
            simp [afterBraced, hb, hc, hp]
        | name value =>
          refine .bind get_eq .refl (.pure (.refused fun ns fs => readOn_cons_error ?_))
          rw [take_braced ends]
          simp [afterBraced, hb, hc]

/-- What follows the opening brace is read as the reader reads it. -/
lemma braced_answers (place : Nat) (below : Below source n) (h : s.At source rest)
    (hn : rest.length < n) :
    Answers (braced source n place) s rest
      (Reads (.brace place) s rest fun node ns => node :: ns) := by
  rw [braced]
  refine .bind (peek_eq h) .refl ?_
  match rest with
  | [] => exact .pure (.refused fun _ _ => rfl)
  | c :: rest =>
    -- a label takes all the characters of its kind, so that the next one ends it
    have past (kind : Char → Bool) : s.Passes (c :: rest)
        (s.advance (width ((c :: rest).takeWhile kind))) ((c :: rest).dropWhile kind) :=
      .takeWhile kind
    have ahead {kind label} (hl : LabelText ((c :: rest).takeWhile kind) label)
        (hk : label.continues = kind) :
        Answers (labelled source n place label) (s.advance (width ((c :: rest).takeWhile kind)))
          ((c :: rest).dropWhile kind)
          (Reads (.brace place) s (c :: rest) fun node ns => node :: ns) := by
      have hb : NoneAhead (label.continues ·) ((c :: rest).dropWhile kind) :=
        hk ▸ noneAhead_dropWhile kind
      refine (labelled_answers place label below ((past kind).lands h)
        (Nat.lt_of_le_of_lt (past kind).length_le hn) hb).mono ?_
      exact fun ha => ha.before (past kind) fun ns fs => readOn_bracedLabel hl
    dsimp only [List.head?_cons]
    split
    case isTrue hd =>
      refine .bind (index_eq place h hn) (past _) ?_
      rcases indexOf_cases place rest hd with ⟨value, hv, hl⟩ | ⟨he, hb⟩
      · rw [hv]
        exact ahead hl rfl
      · rw [he]
        exact .pure (.refused fun ns fs => readOn_tooLarge (.inr rfl) hd hb)
    case isFalse hd =>
      split
      case isTrue hs =>
        exact .bind (takeWhile_eq isNameChar h hn) (past _) (ahead (labelText_name hs) rfl)
      case isFalse hs =>
        refine .bind get_eq .refl (.pure (.refused fun ns fs => readOn_cons_error ?_))
        simp [take, Label.start?, hd, hs]

/-- The nodes behind a `$` that began a node or was text. -/
def push (node? : Option Node) (ns : List Node) : List Node :=
  match node? with
  | some node => node :: ns
  | none => addChar ns '$'

/-- What follows a `$` is read as the reader reads it, and the `$` is text if nothing begins there.
-/
lemma behindDollar_answers (place : Nat) (below : Below source n) (h : s.At source rest)
    (hn : rest.length < n) :
    Answers (behindDollar source n place) s rest (Agrees (.dollar place) s rest push) := by
  rw [behindDollar]
  refine .bind (peek_eq h) .refl ?_
  have text (hr : ∀ c ∈ rest.head?, (Mode.dollar place).takes c = false) :
      Agrees (.dollar place) s rest push (.ok none) s rest := by
    intro ns fs _
    exact readOn_settle hr
  match rest with
  | [] => exact .pure (text nofun)
  | c :: rest =>
    dsimp only [List.head?_cons]
    split
    case isTrue hd =>
      refine .bind (index_eq place h hn) (.takeWhile _) ?_
      rcases indexOf_cases place rest hd with ⟨value, hv, hl⟩ | ⟨he, hb⟩
      · rw [hv]
        exact .pure fun ns fs _ => readOn_bareLabel hl rfl
      · rw [he]
        exact .pure fun ns fs _ => readOn_tooLarge (.inl rfl) hd hb
    case isFalse hd =>
      split
      case isTrue hs =>
        refine .bind (takeWhile_eq isNameChar h hn) (.takeWhile _) ?_
        exact .pure fun ns fs _ => readOn_bareLabel (labelText_name hs) rfl
      case isFalse hs =>
        split
        case isTrue hb =>
          subst hb
          refine .bind (bump_eq h) .skip ?_
          exact (braced_answers place below h.skip (Nat.lt_of_succ_lt hn)).returns
            fun hr => Agrees.map (f := some) (hr.agrees.before .skip fun ns fs => readOn_mode rfl)
        case isFalse hb =>
          refine .pure (text ?_)
          rintro _ ⟨⟩
          simp [Mode.takes, Label.start?, hd, hs, hb]

/-- A `$` is read with what follows it, and moves the cursor in any case. -/
lemma dollar_answers (below : Below source n) (h : s.At source ('$' :: rest))
    (hn : rest.length < n) :
    Answers (dollar source n) s ('$' :: rest) fun answer t after =>
      after.length ≤ rest.length ∧ Agrees .body s ('$' :: rest) push answer t after := by
  rw [dollar]
  refine .bind get_eq .refl (.bind (bump_eq h) .skip ?_)
  refine (behindDollar_answers s.pos below h.skip hn).passes.mono ?_
  rintro answer t after ⟨hp, ha⟩
  exact ⟨hp.length_le, ha.before .skip fun ns fs => readOn_mode rfl⟩

variable {place? : Option Nat} {nodes nodes' : List Node} {template : Except Error Template}

/-- The nodes agree with a reader that comes to the reader with which they agree. -/
lemma ReadsBody.before (h : ReadsBody place? nodes' s' rest' template t after)
    (hp : s.Passes rest s' rest')
    (hr : ∀ fs, fs.length = s.depth.level → fs.head?.map Frame.place = place? →
      readOn (some maxNesting) ⟨s.pos, .body, nodes, fs⟩ rest =
        readOn (some maxNesting) ⟨s'.pos, .body, nodes', fs⟩ rest') :
    ReadsBody place? nodes s rest template t after where
  moves := fun hs body hb => Nat.lt_of_lt_of_le (h.moves hs body hb) hp.length_le
  agrees := fun fs hf hh => (hr fs hf hh).trans (h.agrees fs (hf.trans hp.depth.symm) hh)

/-- A text that the reader takes for a character of the body. -/
lemma ReadsBody.text (text : List Char)
    (h : ReadsBody place? (addChar nodes c) s' rest template t after)
    (hp : s.Passes (text ++ rest) s' rest) (hw : s'.pos = s.pos + width text)
    (hr : ∀ fs, fs.head?.map Frame.place = place? →
      readOn (some maxNesting) ⟨s.pos, .body, nodes, fs⟩ (text ++ rest) =
        readOn (some maxNesting)
          (gain ⟨s.pos, .body, nodes, fs⟩ text [.text (.singleton c)]) rest) :
    ReadsBody place? nodes s (text ++ rest) template t after := by
  refine h.before hp fun fs _ hh => ?_
  rw [hr fs hh, gain, hw, addChar_eq]

/-- The source ends at the end of its own body. -/
lemma ReadsBody.whole : ReadsBody none nodes s [] (.ok nodes.reverse) s [] where
  moves := nofun
  agrees := by
    intro fs _ hh
    cases fs with
    | nil => rfl
    | cons => cases hh

/-- The source ends in the body of a field, which is then blamed. -/
lemma ReadsBody.unterminated :
    ReadsBody (some place) nodes s [] (.error ⟨.unterminatedPlaceholder, place⟩) s [] where
  moves := nofun
  agrees := by
    intro fs _ hh
    cases fs with
    | nil => cases hh
    | cons frame fs =>
      cases hh
      rfl

/-- A brace ends the body of a field. -/
lemma ReadsBody.closed (hs : place?.isSome) :
    ReadsBody place? nodes s ('}' :: rest) (.ok nodes.reverse) (s.advance '}'.utf8Size) rest where
  moves := fun _ _ _ => Nat.lt_succ_self _
  agrees := by
    intro fs _ hh
    cases fs with
    | nil =>
      cases hh
      cases hs
    | cons frame fs => exact readOn_close

/-- Any other character is text. -/
lemma ReadsBody.char (hb : c ≠ '\\') (hd : c ≠ '$') (hc : ¬ (c = '}' ∧ place?.isSome))
    (h : ReadsBody place? (addChar nodes c) (s.advance c.utf8Size) rest template t after) :
    ReadsBody place? nodes s (c :: rest) template t after := by
  refine h.text [c] .skip rfl fun fs hh => readOn_char hb hd fun he => ?_
  cases fs with
  | nil => rfl
  | cons frame fs =>
    subst hh
    exact absurd ⟨he, rfl⟩ hc

/-- Every body is read as the reader reads it. The induction is on the number of calls: each item
takes a character, so that one call less suffices behind it. -/
lemma below_all (source : String) (n : Nat) : Below source n := by
  induction n with
  | zero => exact fun _ hn => absurd hn (Nat.not_lt_zero _)
  | succ n below =>
  intro s rest place? nodes h hn
  rw [elementsFrom.eq_def]
  refine .bind (peek_eq h) .refl ?_
  match rest with
  | [] =>
    cases place? with
    | none => exact .pure .whole
    | some place => exact .pure .unterminated
  | c :: rest =>
    have shorter : rest.length < n := Nat.lt_of_succ_lt_succ hn
    dsimp only [List.head?_cons]
    split
    case isTrue hc =>
      obtain ⟨rfl, hs⟩ := hc
      exact .bind (bump_eq h) .skip (.pure (.closed hs))
    case isFalse hc =>
      split
      case isTrue hb =>
        subst hb
        obtain ⟨d, text, after, rfl, he, hd⟩ := escape_cases escapable h.skip
        have hr (fs : List Frame) : readOn (some maxNesting) ⟨s.pos, .body, nodes, fs⟩
            ('\\' :: text ++ after) = readOn (some maxNesting)
              (gain ⟨s.pos, .body, nodes, fs⟩ ('\\' :: text) [.text (.singleton d)]) after := by
          rcases hd with ⟨rfl, hd⟩ | ⟨rfl, rfl, hn⟩
          · exact readOn_escaped (mem_bodyMarks.mpr hd)
          · exact readOn_backslash fun c hc hm => hn c hc (mem_bodyMarks.mp hm)
        have shorter' : after.length < n := by
          rw [List.length_append] at shorter
          omega
        refine .bind (bump_eq h) .skip (.bind he .advance ?_)
        refine (below (h.skip.advance rfl) shorter').mono fun ha => ?_
        exact ha.text ('\\' :: text) (.trans .skip .advance) (Nat.add_assoc ..) fun fs _ => hr fs
      case isFalse hb =>
        split
        case isTrue hd =>
          subst hd
          obtain ⟨answer, t, after, hm, hp, hl, ha⟩ := dollar_answers below h shorter
          refine .bind hm hp ?_
          -- a node and the `$` as text are followed by the rest of the body alike
          have further {node?} (hv : answer = .ok node?) :
              Answers (elementsFrom source n place? (push node? nodes)) t after
                (ReadsBody place? nodes s ('$' :: rest)) := by
            subst hv
            exact (below (hp.lands h) (Nat.lt_of_le_of_lt hl shorter)).mono
              fun hb => hb.before hp fun fs hf _ => ha nodes fs hf
          match answer with
          | .error error => exact .pure ⟨nofun, fun fs hf _ => ha nodes fs hf⟩
          | .ok none => exact further rfl
          | .ok (some node) => exact further rfl
        case isFalse hd =>
          refine .bind (bump_eq h) .skip ?_
          exact (below h.skip shorter).mono fun ha => ha.char hb hd hc

end Descent

end TucServer.Template
