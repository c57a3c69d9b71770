import TucServer.Proofs.Template.Completeness

/-!
# What is read is derived by the grammar

A reader in the middle of a source has read a part of a construct and has bodies open around it.
`Pending` says which characters of the construct have been read, and `Closes` what the rest of the
source has to be for the open bodies to end and to give a template. `closes_of_readOn` is the
invariant of a run: whatever a reader makes of the rest of a source, the characters that are pending
and the rest close its bodies. The induction is on the rest, so that each step has the conclusion
for the reader it leads to.
-/

namespace TucServer.Template

/-- What the open frames, outside the nodes of the innermost body, need of the rest of a source to
give this template. -/
def Closes : List Frame → Template → List Char → Template → Prop
  | [], before, cs, template =>
    ∃ nodes, Body 0 cs [] nodes ∧ template = join before nodes
  | frame :: frames, before, cs, template =>
    ∃ inner rest nodes, cs = inner ++ '}' :: rest ∧
      Body (frames.length + 1) inner ('}' :: rest) nodes ∧
      Closes frames (frame.before.reverse ++ [.field frame.label (join before nodes)]) rest template

/-- Text that gives these options, latest first, and the characters of one that has not ended. -/
def InOptions (options : List String) (current : String) (text : List Char) : Prop :=
  ∃ done last, text = done ++ last ∧
    (∀ more rest others, OptionList more rest others →
      OptionList (done ++ more) rest (options.reverse ++ others)) ∧
    ∀ rest, OptionText last rest current.toList

/-- The characters that have been read of the construct in this mode. -/
inductive Pending : Mode → List Char → Prop where
  | body :
    Pending .body []
  | escape :
    Pending .escape ['\\']
  | dollar {place} :
    Pending (.dollar place) ['$']
  | bare {place text label} :
    LabelText text label →
    Pending (.bare place label) ('$' :: text)
  | brace {place} :
    Pending (.brace place) ['$', '{']
  | braced {place text label} :
    LabelText text label →
    Pending (.braced place label) ('$' :: '{' :: text)
  | option {place index digits options current text} :
    LabelText digits (.index index) →
    InOptions options current text →
    Pending (.option place index options current) ('$' :: '{' :: digits ++ '|' :: text)
  | optionEscape {place index digits options current text} :
    LabelText digits (.index index) →
    InOptions options current text →
    Pending (.optionEscape place index options current)
      ('$' :: '{' :: digits ++ '|' :: text ++ ['\\'])
  | optionEnd {place index digits options text} :
    LabelText digits (.index index) →
    (∀ rest, OptionList text ('|' :: rest) options.reverse) →
    Pending (.optionEnd place index options) ('$' :: '{' :: digits ++ '|' :: text ++ ['|'])

/-- An item in front of what closes the open bodies is part of the innermost one. -/
lemma Closes.item {frames before text cs node template} (h : Item frames.length text cs node)
    (hc : Closes frames (join before [node]) cs template) :
    Closes frames before (text ++ cs) template := by
  cases frames with
  | nil =>
    obtain ⟨nodes, hb, rfl⟩ := hc
    have h' : Item 0 text (cs ++ []) node := by
      rw [List.append_nil]
      exact h
    refine ⟨node.attach nodes, .cons h' hb, ?_⟩
    rw [join_assoc, singleton_join]
  | cons frame frames =>
    obtain ⟨inner, rest, nodes, rfl, hb, hc⟩ := hc
    refine ⟨text ++ inner, rest, node.attach nodes, (List.append_assoc text inner _).symm,
      .cons h hb, ?_⟩
    rwa [join_assoc, singleton_join] at hc

/-- A brace ends the innermost body, whose field stands in the body around it. -/
lemma Closes.brace {frame : Frame} {frames before cs template}
    (h : Closes frames (frame.before.reverse ++ [.field frame.label before]) cs template) :
    Closes (frame :: frames) before ('}' :: cs) template := by
  refine ⟨[], cs, [], rfl, .nil, ?_⟩
  rwa [join_nil]

/-- What closes a new body and those around it begins with the field of the new one. -/
lemma Closes.field {place text label nodes frames cs template} (hl : LabelText text label)
    (hd : frames.length + 1 ≤ maxNesting)
    (h : Closes (⟨place, label, nodes⟩ :: frames) [] cs template) :
    Closes frames nodes.reverse ('$' :: '{' :: text ++ ':' :: cs) template := by
  obtain ⟨inner, rest, body, rfl, hb, hc⟩ := h
  have hi : Item frames.length ('$' :: '{' :: text ++ ':' :: inner ++ ['}']) rest
    (.field label body) := .body hl hd hb
  rw [nil_join, ← join_singleton (.field label body) rfl] at hc
  simpa using Closes.item hi hc

/-- A character that begins a label is the text of this label. -/
lemma LabelText.of_start {c label} (h : Label.start? c = some label) : LabelText [c] label := by
  simp only [Label.start?] at h
  split at h
  case isTrue hd =>
    cases h
    have hv := value_lt_indexBound hd
    have hn : Digit.number [c] = Digit.value c := Digit.number_cons c []
    rw [← hn] at hv ⊢
    exact .index (by simp) (by simpa using hd) hv
  case isFalse hd =>
    split at h
    case isTrue hs =>
      cases h
      rw [String.singleton_eq_ofList]
      exact .name hs fun d hd => absurd hd List.not_mem_nil
    case isFalse => cases h

/-- A character with which a label goes on in range is added to its text. -/
lemma LabelText.extend {text label c} (h : LabelText text label) (hc : label.continues c)
    (hr : (label.extend c).inRange) : LabelText (text ++ [c]) (label.extend c) := by
  cases h with
  | index hne hd hb =>
    simp only [Label.extend, Label.inRange, decide_eq_true_eq, ← Digit.number_concat] at hr ⊢
    refine .index (by simp) ?_ hr
    intro d hm
    rcases List.mem_append.mp hm with hm | hm
    · exact hd d hm
    · rw [List.mem_singleton.mp hm]
      exact hc
  | @name first rest hs hrest =>
    have hn : (String.ofList (first :: rest)).push c = String.ofList (first :: (rest ++ [c])) := by
      rw [← String.append_singleton, String.singleton_eq_ofList, ← String.ofList_append,
        List.cons_append]
    rw [Label.extend, hn]
    refine .name hs ?_
    intro d hm
    rcases List.mem_append.mp hm with hm | hm
    · exact hrest d hm
    · rw [List.mem_singleton.mp hm]
      exact hc

/-- Before the first character there are no options and an empty one has begun. -/
lemma InOptions.start : InOptions [] "" [] := by
  refine ⟨[], [], rfl, ?_, fun _ => .nil⟩
  intro more rest others h
  exact h

/-- More text of an option adds the characters it means. -/
lemma InOptions.add {options current text more cs} (h : InOptions options current text)
    (hm : ∀ rest, OptionText more rest cs) :
    InOptions options (current ++ String.ofList cs) (text ++ more) := by
  obtain ⟨done, last, rfl, hd, hl⟩ := h
  refine ⟨done, last ++ more, List.append_assoc done last more, hd, ?_⟩
  intro rest
  rw [String.toList_append, String.toList_ofList]
  exact (hl (more ++ rest)).append (hm rest)

/-- A character that is no mark is added to the option. -/
lemma InOptions.char {options current text c} (h : InOptions options current text)
    (hc : c ∉ ['\\', ',', '|']) : InOptions options (current.push c) (text ++ [c]) := by
  rw [← String.append_singleton, String.singleton_eq_ofList]
  exact h.add fun _ => .char hc .nil

/-- A comma ends the option, and the next one is empty so far. -/
lemma InOptions.comma {options current text} (h : InOptions options current text) :
    InOptions (current :: options) "" (text ++ [',']) := by
  obtain ⟨done, last, rfl, hd, hl⟩ := h
  refine ⟨done ++ last ++ [','], [], (List.append_nil _).symm, ?_, fun _ => .nil⟩
  intro more rest others ho
  have hc : OptionList (last ++ ',' :: more) rest (current :: others) := by
    have h := OptionList.cons (hl (',' :: more ++ rest)) ho
    rwa [String.ofList_toList] at h
  simpa using hd _ rest _ hc

/-- A bar ends the options. -/
lemma InOptions.bar {options current text} (h : InOptions options current text)
    (rest : List Char) : OptionList text ('|' :: rest) (current :: options).reverse := by
  obtain ⟨done, last, rfl, hd, hl⟩ := h
  have hs := OptionList.single (hl ('|' :: rest))
  rw [String.ofList_toList] at hs
  rw [List.reverse_cons]
  exact hd last _ _ hs

namespace Reader

/-- What a reader makes of these characters closes the bodies around it. -/
def Sound (cs : List Char) : Prop :=
  ∀ {r : Reader} {pending : List Char} {template : Template}, Pending r.mode pending →
    r.readOn (some maxNesting) cs = .ok template →
      Closes r.frames r.nodes.reverse (pending ++ cs) template

variable {o place : Nat} {ns : List Node} {fs : List Frame}
variable {label : Label} {c : Char} {cs pending text : List Char} {template : Template}

/-- A construct that does not take the next character is an item of its own. -/
lemma closes_settle {r : Reader} (h : Pending r.mode pending)
    (hn : ∀ c ∈ cs.head?, r.mode.takes c = false)
    (hb : r.settle.mode = .body)
    (hc : Closes r.settle.frames r.settle.nodes.reverse cs template) :
    Closes r.frames r.nodes.reverse (pending ++ cs) template := by
  rw [settle_frames] at hc
  obtain ⟨o, mode, ns, fs⟩ := r
  cases h with
  | body => exact hc
  | escape =>
    refine Closes.item (.backslash ?_) ?_
    · intro c hm hb
      exact Bool.eq_false_iff.mp (hn c hm) (mem_bodyMarks.mp hb)
    · simpa [settle, char, addChar_eq] using hc
  | dollar =>
    refine Closes.item (.dollar ?_) ?_
    · intro c hm hd
      exact Bool.eq_false_iff.mp (hn c hm) (takes_dollar.mpr hd)
    · simpa [settle, char, addChar_eq] using hc
  | @bare _ text label hl =>
    refine Closes.item (.bare hl ?_) ?_
    · intro c hm
      have ht := hn c hm
      simpa [Mode.takes] using ht
    · simpa [settle, node, join_singleton (.field label []) rfl] using hc
  | brace => cases hb
  | braced => cases hb
  | option => cases hb
  | optionEscape => cases hb
  | optionEnd => cases hb

/-- In a body the next character is an item, begins one, or ends the body. -/
lemma closes_body {r : Reader} (ih : Sound cs) (hr : r.mode = .body)
    (h : r.readOn (some maxNesting) (c :: cs) = .ok template) :
    Closes r.frames r.nodes.reverse (c :: cs) template := by
  obtain ⟨o, _, ns, fs⟩ := r
  subst hr
  -- a closing brace is text where no body is open, and any unmarked character everywhere
  have text (hb : c ≠ '\\') (hd : c ≠ '$') (hc : c = '}' → fs = []) :
      Closes fs ns.reverse (c :: cs) template := by
    rw [readOn_char hb hd hc] at h
    have hi := ih .body h
    simp only [gain, List.reverse_reverse] at hi
    exact Closes.item (.char hb hd fun e => congrArg List.length (hc e)) hi
  by_cases hb : c = '\\'
  · subst hb
    rw [readOn_cons rfl] at h
    exact ih .escape h
  by_cases hd : c = '$'
  · subst hd
    rw [readOn_cons rfl] at h
    exact ih .dollar h
  by_cases hc : c = '}'
  · cases fs with
    | nil => exact text hb hd fun _ => rfl
    | cons frame fs =>
      subst hc
      rw [readOn_close] at h
      have hi := ih .body h
      simp only [List.reverse_cons] at hi
      exact hi.brace
  · exact text hb hd fun e => absurd e hc

/-- A mark behind a backslash is an item together with it. -/
lemma closes_escape (ih : Sound cs) (hm : c ∈ bodyMarks)
    (h : readOn (some maxNesting) ⟨o, .escape, ns, fs⟩ (c :: cs) = .ok template) :
    Closes fs ns.reverse (['\\'] ++ c :: cs) template := by
  have hc : escapable c := mem_bodyMarks.mp hm
  have htake : take (some maxNesting) ⟨o, .escape, ns, fs⟩ c =
      .ok ⟨o, .body, addChar ns c, fs⟩ := by
    simp [take, hc, char]
  rw [readOn_cons htake] at h
  have hi : Closes fs (addChar ns c).reverse ([] ++ cs) template := ih .body h
  rw [addChar_eq, List.reverse_reverse] at hi
  simpa using Closes.item (.escaped hm) hi

/-- A character that a `$` takes begins its label or opens its braces. -/
lemma closes_dollar (ih : Sound cs) (ht : (Mode.dollar place).takes c)
    (h : readOn (some maxNesting) ⟨o, .dollar place, ns, fs⟩ (c :: cs) = .ok template) :
    Closes fs ns.reverse (['$'] ++ c :: cs) template := by
  by_cases hc : c = '{'
  · subst hc
    rw [readOn_cons rfl] at h
    have hi : Closes fs ns.reverse (['$', '{'] ++ cs) template := ih .brace h
    exact hi
  obtain ⟨next, hk, hr⟩ := readOn_cons_eq_ok h
  simp only [take, hc, if_false] at hk
  split at hk
  case h_1 label hs =>
    cases hk
    exact ih (.bare (.of_start hs)) hr
  case h_2 hs => simp [Mode.takes, hc, hs] at ht

/-- A label inside braces goes on, or ends the field, or begins its body or its options. -/
lemma closes_braced (ih : Sound cs) (hl : LabelText text label)
    (h : readOn (some maxNesting) ⟨o, .braced place label, ns, fs⟩ (c :: cs) = .ok template) :
    Closes fs ns.reverse ('$' :: '{' :: text ++ c :: cs) template := by
  obtain ⟨next, ht, h⟩ := readOn_cons_eq_ok h
  by_cases hc : label.continues c
  · simp only [take, hc, if_true] at ht
    obtain ⟨hr, rfl⟩ := inLabel_eq_ok ht
    simpa using ih (.braced (hl.extend hc hr)) h
  · simp only [take, hc] at ht
    obtain ⟨rfl, rfl⟩ | ⟨rfl, ht⟩ | ⟨index, rfl, rfl, rfl⟩ := afterBraced_eq_ok ht
    · have hi : Closes fs (.field label [] :: ns).reverse ([] ++ cs) template := ih .body h
      rw [List.reverse_cons, ← join_singleton (.field label []) rfl] at hi
      simpa using Closes.item (.braced hl) hi
    · obtain ⟨hd, rfl⟩ := openBody_eq_ok ht
      have hi : Closes (⟨place, label, ns⟩ :: fs) [] ([] ++ cs) template := ih .body h
      exact hi.field hl (hd maxNesting rfl)
    · have hi : Closes fs ns.reverse ('$' :: '{' :: text ++ ['|'] ++ cs) template :=
        ih (.option hl .start) h
      simpa using hi

/-- In an option the next character is text, begins an escape, or ends the option. -/
lemma closes_option {index digits options current} (ih : Sound cs)
    (hl : LabelText digits (.index index)) (ho : InOptions options current text)
    (h : readOn (some maxNesting) ⟨o, .option place index options current, ns, fs⟩ (c :: cs) =
      .ok template) :
    Closes fs ns.reverse ('$' :: '{' :: digits ++ '|' :: text ++ c :: cs) template := by
  by_cases hb : c = '\\'
  · subst hb
    rw [readOn_cons rfl] at h
    have hi : Closes fs ns.reverse ('$' :: '{' :: digits ++ '|' :: text ++ ['\\'] ++ cs) template :=
      ih (.optionEscape hl ho) h
    simpa using hi
  by_cases hc : c = ','
  · subst hc
    rw [readOn_cons rfl] at h
    have hi : Closes fs ns.reverse ('$' :: '{' :: digits ++ '|' :: (text ++ [',']) ++ cs)
        template := ih (.option hl ho.comma) h
    simpa using hi
  by_cases hd : c = '|'
  · subst hd
    rw [readOn_cons rfl] at h
    have hi : Closes fs ns.reverse ('$' :: '{' :: digits ++ '|' :: text ++ ['|'] ++ cs) template :=
      ih (.optionEnd hl ho.bar) h
    simpa using hi
  · have htake : take (some maxNesting) ⟨o, .option place index options current, ns, fs⟩ c =
        .ok ⟨o, .option place index options (current.push c), ns, fs⟩ := by
      simp [take, inOption, hb, hc, hd]
    rw [readOn_cons htake] at h
    have hm : c ∉ ['\\', ',', '|'] := by
      simp [hb, hc, hd]
    simpa using ih (.option hl (ho.char hm)) h

/-- A backslash in an option escapes the next character or stands for itself. -/
lemma closes_optionEscape {index digits options current} (ih : Sound cs)
    (hl : LabelText digits (.index index)) (ho : InOptions options current text)
    (h : readOn (some maxNesting) ⟨o, .optionEscape place index options current, ns, fs⟩
      (c :: cs) = .ok template) :
    Closes fs ns.reverse ('$' :: '{' :: digits ++ '|' :: text ++ ['\\'] ++ c :: cs) template := by
  by_cases hm : c ∈ optionMarks
  · have hc : optionEscapable c := mem_optionMarks.mp hm
    have htake : take (some maxNesting) ⟨o, .optionEscape place index options current, ns, fs⟩ c =
        .ok ⟨o, .option place index options (current.push c), ns, fs⟩ := by
      simp [take, hc]
    have ho' : InOptions options (current.push c) (text ++ ['\\', c]) := by
      rw [← String.append_singleton, String.singleton_eq_ofList]
      exact ho.add fun _ => .escaped hm .nil
    rw [readOn_cons htake] at h
    simpa using ih (.option hl ho') h
  · have hn (rest : List Char) : NoneAhead (· ∈ optionMarks) (c :: rest) := by
      intro d hd
      cases hd
      exact hm
    have hm' : c ∉ ['\\', ',', '|'] := by
      simp only [optionMarks, List.mem_cons, List.not_mem_nil, or_false, not_or] at hm ⊢
      exact ⟨hm.2.2.1, hm.1, hm.2.1⟩
    have htake : take (some maxNesting) ⟨o, .option place index options (current.push '\\'), ns, fs⟩
        c = .ok ⟨o, .option place index options ((current.push '\\').push c), ns, fs⟩ := by
      simp only [List.mem_cons, List.not_mem_nil, or_false, not_or] at hm'
      simp [take, inOption, hm']
    have ho' : InOptions options ((current.push '\\').push c) (text ++ ['\\', c]) := by
      have ha := ho.add fun rest => .backslash (hn rest) (.char hm' .nil)
      rwa [String.ofList_cons, ← String.append_assoc, String.append_singleton,
        ← String.singleton_eq_ofList, String.append_singleton] at ha
    rw [readOn_optionEscape (hn cs), readOn_cons htake] at h
    simpa using ih (.option hl ho') h

/-- Behind the last bar only the brace that ends the choice is read. -/
lemma closes_optionEnd {index digits options} (ih : Sound cs)
    (hl : LabelText digits (.index index))
    (ho : ∀ rest, OptionList text ('|' :: rest) options.reverse)
    (h : readOn (some maxNesting) ⟨o, .optionEnd place index options, ns, fs⟩ (c :: cs) =
      .ok template) :
    Closes fs ns.reverse ('$' :: '{' :: digits ++ '|' :: text ++ ['|'] ++ c :: cs) template := by
  obtain ⟨next, hk, hr⟩ := readOn_cons_eq_ok h
  simp only [take] at hk
  split at hk
  case isTrue hc =>
    subst hc
    cases hk
    have hi : Closes fs (.choice index options.reverse :: ns).reverse ([] ++ cs) template :=
      ih .body hr
    rw [List.reverse_cons, ← join_singleton (.choice index options.reverse) rfl] at hi
    simpa using Closes.item (.choice hl (ho ('}' :: cs))) hi
  case isFalse => cases hk

/-- At the end of the source a template closes what is open if that is nothing. -/
lemma closes_end {r : Reader} (hr : r.mode = .body) (h : r.finish = .ok template) :
    Closes r.frames r.nodes.reverse [] template := by
  obtain ⟨o, _, ns, fs⟩ := r
  subst hr
  cases fs with
  | nil =>
    cases h
    exact ⟨[], .nil, (join_nil _).symm⟩
  | cons frame fs => cases h

/-- At the end of the source nothing but an item may be pending. -/
lemma closes_nil : Sound [] := by
  intro r pending template hp h
  have hb : r.settle.mode = .body := by
    obtain ⟨o, mode, ns, fs⟩ := r
    cases hp <;> first | rfl | cases h
  refine closes_settle hp nofun hb (closes_end hb ?_)
  rwa [finish_settle]

/-- What a reader makes of the rest of a source closes the bodies around it. -/
lemma closes_of_readOn (cs : List Char) : Sound cs := by
  induction cs with
  | nil => exact closes_nil
  | cons c cs ih =>
    intro r pending template hp h
    -- a construct that has ended leaves the character to the body around it
    by_cases ht : r.mode.takes c = false
    · have hn : ∀ d ∈ (c :: cs).head?, r.mode.takes d = false := by
        intro d hd
        cases hd
        exact ht
      rw [readOn_settle hn] at h
      exact closes_settle hp hn (settle_mode ht) (closes_body ih (settle_mode ht) h)
    rw [Bool.not_eq_false] at ht
    obtain ⟨o, mode, ns, fs⟩ := r
    obtain ⟨next, hk, hr⟩ := readOn_cons_eq_ok h
    cases hp with
    | body => exact closes_body ih rfl h
    | escape => exact closes_escape ih (mem_bodyMarks.mpr ht) h
    | dollar => exact closes_dollar ih ht h
    | bare hl =>
      simp only [Mode.takes] at ht
      simp only [take, ht, if_true] at hk
      obtain ⟨hg, rfl⟩ := inLabel_eq_ok hk
      simpa using ih (.bare (hl.extend ht hg)) hr
    | brace =>
      simp only [take] at hk
      split at hk
      case h_1 label hs =>
        cases hk
        exact ih (.braced (.of_start hs)) hr
      case h_2 => cases hk
    | braced hl => exact closes_braced ih hl h
    | option hl ho => exact closes_option ih hl ho h
    | optionEscape hl ho => exact closes_optionEscape ih hl ho h
    | optionEnd hl ho => exact closes_optionEnd ih hl ho h

end Reader

/-- A source is read as what the grammar derives. -/
lemma body_of_parse {source : String} {template : Template} (h : parse source = .ok template) :
    Body 0 source.toList [] template := by
  obtain ⟨nodes, hb, rfl⟩ := Reader.closes_of_readOn source.toList .body h
  exact hb

/-- A source is a template exactly when the grammar derives it, and the template is the tree that
the grammar gives. -/
theorem parse_eq_ok_iff_body (source : String) (template : Template) :
    parse source = .ok template ↔ Body 0 source.toList [] template :=
  ⟨body_of_parse, parse_of_body⟩

end TucServer.Template
