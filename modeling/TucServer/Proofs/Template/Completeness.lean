import TucServer.Proofs.Template.Continuation
import TucServer.Proofs.Template.Grammar

/-!
# What the grammar derives is read

A derivation is followed by the reader step by step. A text is gained (`Gains`) when a reader in a
body of the right depth makes of the text and what follows it what the reader with the derived nodes
makes of what follows. `gains_of_body` is the induction on the derivation, with a lemma for every
kind of item, and `parse_of_body` the case of a whole source.
-/

namespace TucServer.Template

/-- A label that goes on with characters and stays in range all the way. -/
inductive Label.Grows : Label → List Char → Label → Prop where
  | nil {label} :
    Grows label [] label
  | cons {label c cs last} :
    label.continues c →
    (label.extend c).inRange →
    Grows (label.extend c) cs last →
    Grows label (c :: cs) last

/-- The reader escapes in a body what the grammar does. -/
lemma mem_bodyMarks {c : Char} : c ∈ bodyMarks ↔ Reader.escapable c := by
  simp [bodyMarks, Reader.escapable, or_assoc]

/-- The reader escapes in an option what the grammar does. -/
lemma mem_optionMarks {c : Char} : c ∈ optionMarks ↔ Reader.optionEscapable c := by
  simp [optionMarks, Reader.optionEscapable, or_assoc]

/-- What a `$` takes is what the grammar looks for after it. -/
lemma takes_dollar {place : Nat} {c : Char} :
    (Mode.dollar place).takes c ↔ c.isDigit ∨ c.isAlpha ∨ c = '_' ∨ c = '{' := by
  simp only [Mode.takes, Label.start?, isNameStart, Bool.or_eq_true, beq_iff_eq]
  grind

/-- No digit begins a name. -/
lemma isNameStart_isDigit {c : Char} (h : isNameStart c) : c.isDigit = false := by
  simp only [isNameStart, Bool.or_eq_true, beq_iff_eq] at h
  rcases h with h | rfl
  · -- all letters come after the digits
    have hl : 'A'.val ≤ c.val := by
      rcases (Bool.or_eq_true c.isUpper c.isLower).mp h with hu | hl
      · exact (of_decide_eq_true hu).1
      · have ha : 'a'.val ≤ c.val := of_decide_eq_true ((Bool.and_eq_true _ _).mp hl).1
        exact UInt32.le_trans (by decide) ha
    simp only [Char.isDigit, Bool.and_eq_false_iff, decide_eq_false_iff_not]
    right
    intro h9
    exact absurd (UInt32.le_trans hl h9) (by decide)
  · rfl

/-- Reading on makes a number no smaller. -/
lemma le_ofDigitChars (value : Nat) (digits : List Char) :
    value ≤ Nat.ofDigitChars 10 digits value := by
  induction digits generalizing value with
  | nil => exact Nat.le_refl value
  | cons c digits ih =>
    have h := ih (10 * value + Digit.value c)
    rw [Nat.ofDigitChars_cons]
    exact Nat.le_trans (by omega) h

/-- An index that ends in range was in range before each of its digits. -/
lemma Label.Grows.index {value digits} (hd : ∀ c ∈ digits, c.isDigit)
    (hb : Nat.ofDigitChars 10 digits value < indexBound) :
    Label.Grows (.index value) digits (.index (Nat.ofDigitChars 10 digits value)) := by
  induction digits generalizing value with
  | nil => exact .nil
  | cons c digits ih =>
    rw [Nat.ofDigitChars_cons] at hb ⊢
    have hle := le_ofDigitChars (10 * value + Digit.value c) digits
    refine .cons (hd c List.mem_cons_self) ?_ (ih (fun d hm => hd d (List.mem_cons_of_mem c hm)) hb)
    exact decide_eq_true (Nat.lt_of_le_of_lt hle hb)

/-- A name goes on with any characters of names. -/
lemma Label.Grows.name {start rest} (h : ∀ c ∈ rest, isNameChar c) :
    Label.Grows (.name start) rest (.name (start ++ String.ofList rest)) := by
  induction rest generalizing start with
  | nil =>
    rw [String.ofList_nil, String.append_empty]
    exact .nil
  | cons c rest ih =>
    have ih' := @ih (start.push c) fun d hm => h d (List.mem_cons_of_mem c hm)
    rw [← String.append_singleton, String.append_assoc, String.singleton_eq_ofList,
      ← String.ofList_append] at ih'
    refine .cons (h c List.mem_cons_self) rfl ?_
    rw [Label.extend, ← String.append_singleton, String.singleton_eq_ofList]
    exact ih'

/-- The text of a label begins the label and lets it grow. -/
lemma LabelText.grows {text label} (h : LabelText text label) :
    ∃ c cs first, text = c :: cs ∧ Label.start? c = some first ∧ first.Grows cs label := by
  cases h with
  | index hne hd hb =>
    match text with
    | [] => exact absurd rfl hne
    | c :: cs =>
      have hc : c.isDigit := hd c List.mem_cons_self
      rw [Digit.number_cons] at hb ⊢
      exact ⟨c, cs, .index (Digit.value c), rfl, by simp [Label.start?, hc],
        .index (fun d hm => hd d (List.mem_cons_of_mem c hm)) hb⟩
  | @name c rest hs hr =>
    refine ⟨c, rest, .name (String.singleton c), rfl, ?_, ?_⟩
    · simp [Label.start?, isNameStart_isDigit hs, hs]
    · have h : Label.Grows (.name (String.singleton c)) rest _ := .name hr
      rwa [String.singleton_eq_ofList, ← String.ofList_append] at h

namespace Reader

variable {limit : Option Nat} {o p i : Nat} {ns : List Node} {fs : List Frame}
variable {label first last : Label} {c : Char} {cs text rest : List Char}

/-- Reading a label ends with the label its characters let it grow to. -/
lemma readOn_grows {mode : Label → Mode} (hm : mode = .bare p ∨ mode = .braced p)
    (h : first.Grows cs last) :
    readOn limit ⟨o, mode first, ns, fs⟩ (cs ++ rest) =
      readOn limit ⟨o + width cs, mode last, ns, fs⟩ rest := by
  induction h generalizing o with
  | nil => rfl
  | @cons label c cs last hc hr _ ih =>
    have htake : take limit ⟨o, mode label, ns, fs⟩ c =
        .ok ⟨o, mode (label.extend c), ns, fs⟩ := by
      rcases hm with rfl | rfl <;> simp [take, inLabel, hc, hr]
    rw [List.cons_append, readOn_cons htake, ih, width_cons, Nat.add_assoc]

/-- The text of a label after a `$` is read as that label. -/
lemma readOn_bare (h : LabelText text label) :
    readOn limit ⟨o, .dollar p, ns, fs⟩ (text ++ rest) =
      readOn limit ⟨o + width text, .bare p label, ns, fs⟩ rest := by
  obtain ⟨c, cs, first, rfl, hs, hg⟩ := h.grows
  have hb : c ≠ '{' := by
    rintro rfl
    have hn : Label.start? '{' = none := rfl
    rw [hn] at hs
    cases hs
  have htake : take limit ⟨o, .dollar p, ns, fs⟩ c = .ok ⟨o, .bare p first, ns, fs⟩ := by
    simp [take, hb, hs]
  rw [List.cons_append, readOn_cons htake, readOn_grows (.inl rfl) hg, width_cons, Nat.add_assoc]

/-- The text of a label behind an opening brace is read as that label. -/
lemma readOn_braced (h : LabelText text label) :
    readOn limit ⟨o, .brace p, ns, fs⟩ (text ++ rest) =
      readOn limit ⟨o + width text, .braced p label, ns, fs⟩ rest := by
  obtain ⟨c, cs, first, rfl, hs, hg⟩ := h.grows
  have htake : take limit ⟨o, .brace p, ns, fs⟩ c = .ok ⟨o, .braced p first, ns, fs⟩ := by
    simp [take, hs]
  rw [List.cons_append, readOn_cons htake, readOn_grows (.inr rfl) hg, width_cons, Nat.add_assoc]

/-- A backslash before a character that it does not escape belongs to the option. -/
lemma readOn_optionEscape {options : List String} {current : String}
    (h : NoneAhead (· ∈ optionMarks) cs) :
    readOn limit ⟨o, .optionEscape p i options current, ns, fs⟩ cs =
      readOn limit ⟨o, .option p i options (current.push '\\'), ns, fs⟩ cs := by
  cases cs with
  | nil => cases fs <;> rfl
  | cons c cs =>
    have hc : optionEscapable c = false :=
      Bool.eq_false_iff.mpr fun he => h c rfl (mem_optionMarks.mpr he)
    have h1 : take limit ⟨o, .optionEscape p i options current, ns, fs⟩ c =
        .ok (inOption ⟨o, .option p i options (current.push '\\'), ns, fs⟩ p i options
          (current.push '\\') c) := by
      simp only [take, hc, Bool.false_eq_true, if_false]
      rfl
    rw [readOn_cons h1, readOn_cons rfl]

/-- The text of an option is read as the characters it means. -/
lemma readOn_optionText {options : List String} {current : String} (h : OptionText text rest cs) :
    readOn limit ⟨o, .option p i options current, ns, fs⟩ (text ++ rest) =
      readOn limit ⟨o + width text, .option p i options (current ++ String.ofList cs), ns, fs⟩
        rest := by
  induction h generalizing o current with
  | nil => rw [List.nil_append, width_nil, Nat.add_zero, String.ofList_nil, String.append_empty]
  | @escaped c text rest cs hc _ ih =>
    have hc' : optionEscapable c := mem_optionMarks.mp hc
    have htake : take limit ⟨o + '\\'.utf8Size, .optionEscape p i options current, ns, fs⟩ c =
        .ok ⟨o + '\\'.utf8Size, .option p i options (current.push c), ns, fs⟩ := by
      simp [take, hc']
    rw [List.cons_append, readOn_cons rfl]
    show readOn limit ⟨o + '\\'.utf8Size, .optionEscape p i options current, ns, fs⟩
      (c :: (text ++ rest)) = _
    rw [readOn_cons htake, ih]
    simp [String.ofList_cons, ← String.append_singleton, String.append_assoc, Nat.add_assoc]
  | @backslash text rest cs hn _ ih =>
    rw [List.cons_append, readOn_cons rfl]
    show readOn limit ⟨o + '\\'.utf8Size, .optionEscape p i options current, ns, fs⟩
      (text ++ rest) = _
    rw [readOn_optionEscape hn, ih]
    simp [String.ofList_cons, ← String.append_singleton, String.append_assoc, Nat.add_assoc]
  | @char c text rest cs hc _ ih =>
    simp only [List.mem_cons, List.not_mem_nil, or_false, not_or] at hc
    have htake : take limit ⟨o, .option p i options current, ns, fs⟩ c =
        .ok ⟨o, .option p i options (current.push c), ns, fs⟩ := by
      simp [take, inOption, hc]
    rw [List.cons_append, readOn_cons htake, ih]
    simp [String.ofList_cons, ← String.append_singleton, String.append_assoc, Nat.add_assoc]

/-- The texts of options up to the last bar are read as these options. -/
lemma readOn_optionList {options more : List String} (h : OptionList text ('|' :: rest) more) :
    readOn limit ⟨o, .option p i options "", ns, fs⟩ (text ++ '|' :: rest) =
      readOn limit ⟨o + width (text ++ ['|']), .optionEnd p i (more.reverse ++ options), ns, fs⟩
        rest := by
  -- every option of the list ends at a comma or at the bar after the list
  generalize e : '|' :: rest = ahead at h
  induction h generalizing o options with
  | single h =>
    subst e
    rw [readOn_optionText h, readOn_cons rfl, String.empty_append, width_append, ← Nat.add_assoc]
    rfl
  | @cons text more ahead cs others h _ ih =>
    subst e
    have h' : OptionText text (',' :: (more ++ '|' :: rest)) cs := h
    rw [List.append_assoc, List.cons_append, readOn_optionText h', readOn_cons rfl,
      String.empty_append]
    show readOn limit ⟨o + width text + ','.utf8Size, .option p i (String.ofList cs :: options) "",
      ns, fs⟩ (more ++ '|' :: rest) = _
    rw [ih rfl]
    simp [Nat.add_assoc]

/-- The reader in the innermost body with more nodes, after more text. -/
def gain (r : Reader) (text : List Char) (nodes : Template) : Reader :=
  ⟨r.offset + width text, .body, (join r.nodes.reverse nodes).reverse, r.frames⟩

/-- What is gained one after the other may be gained together. -/
lemma gain_gain (r : Reader) (first second : List Char) (nodes nodes' : Template) :
    (r.gain first nodes).gain second nodes' = r.gain (first ++ second) (join nodes nodes') := by
  simp only [gain, List.reverse_reverse, join_assoc, width_append, Nat.add_assoc]

/-- A character is joined to the nodes as a text of its own. -/
lemma addChar_eq (nodes : List Node) (c : Char) :
    addChar nodes c = (join nodes.reverse [.text (String.singleton c)]).reverse := by
  match nodes with
  | [] => rfl
  | .text value :: rest =>
    rw [List.reverse_cons, append_singleton_join]
    simp [addChar, Node.attach, String.append_singleton]
  | .field _ _ :: rest =>
    rw [List.reverse_cons, append_singleton_join]
    simp [addChar, Node.attach]
  | .choice _ _ :: rest =>
    rw [List.reverse_cons, append_singleton_join]
    simp [addChar, Node.attach]

/-- A node that is no text is joined to the nodes as it is. -/
lemma cons_eq_join (node : Node) (h : node.isText = false) (nodes : List Node) :
    node :: nodes = (join nodes.reverse [node]).reverse := by
  rw [join_singleton node h, List.reverse_append, List.reverse_reverse]
  rfl

/-- A reader in a body reads text by gaining it. -/
lemma readOn_char (hb : c ≠ '\\') (hd : c ≠ '$') (hc : c = '}' → fs = []) :
    readOn limit ⟨o, .body, ns, fs⟩ (c :: rest) =
      readOn limit (gain ⟨o, .body, ns, fs⟩ [c] [.text (String.singleton c)]) rest := by
  have htake : take limit ⟨o, .body, ns, fs⟩ c = .ok ⟨o, .body, addChar ns c, fs⟩ := by
    by_cases h : c = '}'
    · subst h
      rw [hc rfl]
      rfl
    · simp [take, inBody, char, h, hb, hd]
  rw [readOn_cons htake, addChar_eq]
  rfl

/-- The brace that ends a body adds its field to the nodes before. -/
lemma readOn_close {frame : Frame} :
    readOn limit ⟨o, .body, ns, frame :: fs⟩ ('}' :: rest) =
      readOn limit ⟨o + '}'.utf8Size, .body, .field frame.label ns.reverse :: frame.before, fs⟩
        rest := by
  rw [readOn_cons rfl]
  rfl

/-- A backslash before a character that it does not escape is text. -/
lemma readOn_backslash (h : NoneAhead (· ∈ bodyMarks) rest) :
    readOn limit ⟨o, .body, ns, fs⟩ ('\\' :: rest) =
      readOn limit (gain ⟨o, .body, ns, fs⟩ ['\\'] [.text (String.singleton '\\')]) rest := by
  have hs : ∀ c ∈ rest.head?, Mode.escape.takes c = false := by
    intro c hc
    exact Bool.eq_false_iff.mpr fun he => h c hc (mem_bodyMarks.mpr he)
  rw [readOn_cons rfl]
  show readOn limit ⟨o + '\\'.utf8Size, .escape, ns, fs⟩ rest = _
  rw [readOn_settle hs]
  simp only [settle, char, addChar_eq, gain, width_cons, width_nil, Nat.add_zero]

/-- A mark behind a backslash is read as text. -/
lemma readOn_escaped (h : c ∈ bodyMarks) :
    readOn limit ⟨o, .body, ns, fs⟩ ('\\' :: c :: rest) =
      readOn limit (gain ⟨o, .body, ns, fs⟩ ['\\', c] [.text (String.singleton c)]) rest := by
  have hc : escapable c := mem_bodyMarks.mp h
  rw [readOn_cons rfl]
  show readOn limit ⟨o + '\\'.utf8Size, .escape, ns, fs⟩ (c :: rest) = _
  have htake : take limit ⟨o + '\\'.utf8Size, .escape, ns, fs⟩ c =
      .ok ⟨o + '\\'.utf8Size, .body, addChar ns c, fs⟩ := by
    simp [take, hc, char]
  rw [readOn_cons htake, addChar_eq]
  simp only [gain, width_cons, width_nil, Nat.add_assoc, Nat.add_zero]

/-- A `$` after which nothing begins is text. -/
lemma readOn_dollar (h : NoneAhead (fun c => c.isDigit ∨ c.isAlpha ∨ c = '_' ∨ c = '{') rest) :
    readOn limit ⟨o, .body, ns, fs⟩ ('$' :: rest) =
      readOn limit (gain ⟨o, .body, ns, fs⟩ ['$'] [.text (String.singleton '$')]) rest := by
  have hs : ∀ c ∈ rest.head?, (Mode.dollar o).takes c = false := by
    intro c hc
    exact Bool.eq_false_iff.mpr fun ht => h c hc (takes_dollar.mp ht)
  rw [readOn_cons rfl]
  show readOn limit ⟨o + '$'.utf8Size, .dollar o, ns, fs⟩ rest = _
  rw [readOn_settle hs]
  simp only [settle, char, addChar_eq, gain, width_cons, width_nil, Nat.add_zero]

/-- A label after a `$` is a field as far as it extends. -/
lemma readOn_bareField (h : LabelText text label) (hn : NoneAhead (label.continues ·) rest) :
    readOn limit ⟨o, .body, ns, fs⟩ ('$' :: text ++ rest) =
      readOn limit (gain ⟨o, .body, ns, fs⟩ ('$' :: text) [.field label []]) rest := by
  have hs : ∀ c ∈ rest.head?, (Mode.bare o label).takes c = false := by
    intro c hc
    simpa [Mode.takes] using hn c hc
  rw [List.cons_append, readOn_cons rfl]
  show readOn limit ⟨o + '$'.utf8Size, .dollar o, ns, fs⟩ (text ++ rest) = _
  rw [readOn_bare h, readOn_settle hs]
  simp only [settle, node, gain, width_cons, Nat.add_assoc,
    ← cons_eq_join (.field label []) rfl]

/-- What opens a field or a choice is read up to the end of its label. -/
lemma readOn_opening (h : LabelText text label) :
    readOn limit ⟨o, .body, ns, fs⟩ ('$' :: '{' :: text ++ rest) =
      readOn limit ⟨o + width ('$' :: '{' :: text), .braced o label, ns, fs⟩ rest := by
  rw [List.cons_append, List.cons_append, readOn_cons rfl]
  show readOn limit ⟨o + '$'.utf8Size, .dollar o, ns, fs⟩ ('{' :: (text ++ rest)) = _
  rw [readOn_cons rfl]
  show readOn limit ⟨o + '$'.utf8Size + '{'.utf8Size, .brace o, ns, fs⟩ (text ++ rest) = _
  rw [readOn_braced h]
  simp only [width_cons, Nat.add_assoc]

/-- A label in braces is read as a field. -/
lemma readOn_bracedField (h : LabelText text label) :
    readOn limit ⟨o, .body, ns, fs⟩ ('$' :: '{' :: text ++ '}' :: rest) =
      readOn limit (gain ⟨o, .body, ns, fs⟩ ('$' :: '{' :: text ++ ['}']) [.field label []])
        rest := by
  have hc : label.continues '}' = false := by
    cases label <;> rfl
  have htake : take limit ⟨o + width ('$' :: '{' :: text), .braced o label, ns, fs⟩ '}' =
      .ok ⟨o + width ('$' :: '{' :: text), .body, .field label [] :: ns, fs⟩ := by
    simp [take, hc, afterBraced, node]
  rw [readOn_opening h, readOn_cons htake, cons_eq_join (.field label []) rfl]
  simp only [gain, width_append, width_cons, width_nil, Nat.add_assoc, Nat.add_zero]

/-- A label and a colon open a body below the limit. -/
lemma readOn_openBody {depth : Nat} (h : LabelText text label) (hd : fs.length < depth) :
    readOn (some depth) ⟨o, .body, ns, fs⟩ ('$' :: '{' :: text ++ ':' :: rest) =
      readOn (some depth) ⟨o + width ('$' :: '{' :: text ++ [':']), .body, [],
        ⟨o, label, ns⟩ :: fs⟩ rest := by
  have hc : label.continues ':' = false := by
    cases label <;> rfl
  have htake : take (some depth) ⟨o + width ('$' :: '{' :: text), .braced o label, ns, fs⟩ ':' =
      .ok ⟨o + width ('$' :: '{' :: text), .body, [], ⟨o, label, ns⟩ :: fs⟩ := by
    simp [take, hc, afterBraced, openBody, Reader.depth, Nat.not_le.mpr hd]
  rw [readOn_opening h, readOn_cons htake]
  simp only [width_append, width_cons, width_nil, Nat.add_assoc, Nat.add_zero]

/-- An index and options between bars are a choice. -/
lemma readOn_choice {options : List String} (h : LabelText cs (.index i))
    (ho : OptionList text ('|' :: '}' :: rest) options) :
    readOn limit ⟨o, .body, ns, fs⟩ ('$' :: '{' :: cs ++ '|' :: (text ++ '|' :: '}' :: rest)) =
      readOn limit (gain ⟨o, .body, ns, fs⟩ ('$' :: '{' :: cs ++ '|' :: text ++ ['|', '}'])
        [.choice i options]) rest := by
  have htake : take limit ⟨o + width ('$' :: '{' :: cs), .braced o (.index i), ns, fs⟩ '|' =
      .ok ⟨o + width ('$' :: '{' :: cs), .option o i [] "", ns, fs⟩ := rfl
  have hclose : ∀ place, take limit ⟨place, .optionEnd o i (options.reverse ++ []), ns, fs⟩ '}' =
      .ok ⟨place, .body, .choice i options :: ns, fs⟩ := by
    intro place
    simp [take, node]
  rw [readOn_opening h, readOn_cons htake]
  show readOn limit ⟨o + width ('$' :: '{' :: cs) + '|'.utf8Size, .option o i [] "", ns, fs⟩
    (text ++ '|' :: '}' :: rest) = _
  rw [readOn_optionList ho, readOn_cons (hclose _), cons_eq_join (.choice i options) rfl]
  simp only [gain, width_append, width_cons, width_nil, Nat.add_assoc, Nat.add_zero]

/-- In every body of this depth, a reader gains the nodes from the text before the rest. -/
def Gains (d : Nat) (text rest : List Char) (nodes : Template) : Prop :=
  ∀ r : Reader, r.mode = .body → r.depth = d →
    r.readOn (some maxNesting) (text ++ rest) = (r.gain text nodes).readOn (some maxNesting) rest

/-- A body is gained as the field around it. -/
lemma Gains.field {d inner nodes} (h : LabelText text label) (hd : d + 1 ≤ maxNesting)
    (hi : Gains (d + 1) inner ('}' :: rest) nodes) :
    Gains d ('$' :: '{' :: text ++ ':' :: inner ++ ['}']) rest [.field label nodes] := by
  rintro ⟨o, _, ns, fs⟩ rfl e
  have e' : fs.length = d := e
  have hf : fs.length < maxNesting := by omega
  -- the body is gained by a reader that has one frame more
  have hi' := hi ⟨o + width ('$' :: '{' :: text ++ [':']), .body, [], ⟨o, label, ns⟩ :: fs⟩ rfl
    (congrArg (· + 1) e')
  have ha : '$' :: '{' :: text ++ ':' :: inner ++ ['}'] ++ rest =
      '$' :: '{' :: text ++ ':' :: (inner ++ '}' :: rest) := by
    simp
  rw [ha, readOn_openBody h hf, hi']
  simp only [gain, List.reverse_nil, nil_join]
  rw [readOn_close, List.reverse_reverse, cons_eq_join (.field label nodes) rfl]
  simp only [width_append, width_cons, width_nil, Nat.add_assoc, Nat.add_zero]

/-- What the grammar derives is gained by reading. -/
lemma gains_of_body {d nodes} (h : Body d text rest nodes) : Gains d text rest nodes := by
  -- an item is gained as the body of its one node
  induction h using Body.rec (motive_1 := fun d text rest node _ => Gains d text rest [node]) with
  | escaped hc =>
    rintro ⟨o, _, ns, fs⟩ rfl _
    exact readOn_escaped hc
  | backslash hn =>
    rintro ⟨o, _, ns, fs⟩ rfl _
    exact readOn_backslash hn
  | dollar hn =>
    rintro ⟨o, _, ns, fs⟩ rfl _
    exact readOn_dollar hn
  | char hb hd hc =>
    rintro ⟨o, _, ns, fs⟩ rfl e
    exact readOn_char hb hd fun h => List.eq_nil_of_length_eq_zero (e.trans (hc h))
  | bare hl hn =>
    rintro ⟨o, _, ns, fs⟩ rfl _
    exact readOn_bareField hl hn
  | braced hl =>
    rintro ⟨o, _, ns, fs⟩ rfl _
    rw [List.append_assoc]
    exact readOn_bracedField hl
  | body hl hd _ ih => exact ih.field hl hd
  | choice hl ho =>
    rintro ⟨o, _, ns, fs⟩ rfl _
    simpa using readOn_choice hl ho
  | nil =>
    rintro ⟨o, _, ns, fs⟩ rfl _
    simp [gain]
  | @cons d first more rest node nodes _ _ ih ihs =>
    intro r hr e
    rw [List.append_assoc, ih r hr e, ihs (r.gain first [node]) rfl e, gain_gain, singleton_join]

end Reader

/-- A source that the grammar derives is read as what it derives. -/
lemma parse_of_body {source : String} {template : Template}
    (h : Body 0 source.toList [] template) : parse source = .ok template := by
  have hg := Reader.gains_of_body h Reader.start rfl rfl
  rw [List.append_nil] at hg
  rw [parse, Reader.read_eq_readOn, hg]
  simp [Reader.gain, Reader.start, Reader.finish, Reader.settle]

end TucServer.Template
