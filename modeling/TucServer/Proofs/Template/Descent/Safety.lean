import TucServer.Proofs.Template.Descent.Bodies
import TucServer.Proofs.Template.Descent.Bound

/-!
# A descent is safe

No call of a descent goes on for ever or asks for a slice of the source that does not lie between
characters, and none leaves the cursor at another depth than it found it (`CallsSafe`). From the
front of a source the descent comes to what the reader reads (`elements_start`).
-/

namespace TucServer.Template

/-- How the cursor with which a call returns lies to the cursor with which it was called. -/
structure Returned (source : String) (s t : Cursor) : Prop where
  boundary : IsBoundary source t.pos
  inside : t.pos ≤ source.utf8ByteSize
  forward : s.pos ≤ t.pos
  depth : t.depth.level = s.depth.level
  calls : t.calls.level = s.calls.level
  deepest : t.depth.peak ≤ max s.depth.peak maxNesting
  most : t.calls.peak ≤ max s.calls.peak (s.calls.level + (maxNesting + 1 - s.depth.level))

/-- The call returns with every bound above the number of bytes that are left, and with an answer
with which it has to move the cursor it has moved it. -/
def Safe {α : Type} (source : String) (s : Cursor) (call : Nat → Descent α) (moves : α → Prop) :
    Prop :=
  ∃ answer t, (∀ n, source.utf8ByteSize - s.pos < n → call n s = some (.ok (answer, t))) ∧
    Returned source s t ∧ (moves answer → s.pos < t.pos)

/-- The calls of a descent that begin at a cursor are safe. With a value they have moved it, but for
the nodes of a whole source, of which there may be none. A `$` is taken in any case. -/
structure CallsSafe (source : String) (s : Cursor) : Prop where
  index (place : Nat) :
    Safe source s (Descent.index source · place) fun answer => answer.isOk
  nested (place : Nat) :
    Safe source s (Descent.nested source · place) fun answer => answer.isOk
  elements (place : Nat) :
    Safe source s (Descent.elements source · (some place)) fun answer => answer.isOk
  whole : Safe source s (Descent.elements source · none) fun _ => False
  dollar (h : Descent.peek source s = some (.ok (some '$', s))) :
    Safe source s (Descent.dollar source) fun _ => True
  braced (place : Nat) :
    Safe source s (Descent.braced source · place) fun answer => answer.isOk
  choice (place : Nat) :
    Safe source s (Descent.choice source · place) fun answer => answer.isOk

variable {α : Type} {source : String} {s t : Cursor} {rest after : List Char}

/-- A cursor that calls have moved is one with which they can return. -/
lemma Cursor.Passes.returned (h : s.Passes rest t after) (hs : s.At source rest)
    (hd : s.depth.level ≤ maxNesting) : Returned source s t where
  boundary := (h.lands hs).isBoundary
  inside := (h.lands hs).isBoundary.le_utf8ByteSize
  forward := h.pos_le
  depth := h.depth
  calls := h.calls
  deepest := h.deepest
  most := by
    have := h.most
    rw [Nat.sub_add_comm hd]
    omega

/-- The one more call is over. -/
lemma Cursor.Passes.returned_leave (h : s.enter.Passes rest t after) (hs : s.At source rest)
    (hd : s.depth.level ≤ maxNesting) : Returned source s t.leave where
  boundary := (h.lands hs).isBoundary
  inside := (h.lands hs).isBoundary.le_utf8ByteSize
  forward := h.pos_le
  depth := h.depth
  calls := congrArg (· - 1) h.calls
  deepest := h.deepest
  most := by
    have := h.most
    simp only [enter, leave, Gauge.raise, Gauge.lower] at this ⊢
    omega

/-- Fewer answers may be asked to move the cursor. -/
lemma Safe.mono {call : Nat → Descent α} {moves fewer : α → Prop} (h : Safe source s call moves)
    (hm : ∀ {answer}, fewer answer → moves answer) : Safe source s call fewer := by
  obtain ⟨answer, t, ht, hr, ha⟩ := h
  exact ⟨answer, t, ht, hr, fun hf => ha (hm hf)⟩

namespace Descent

variable {call : Nat → Descent α} {answer : α} {b : Nat}

/-- What is returned with one bound is returned with all that are higher. -/
lemma eq_of_extends (hx : ∀ {n k}, n ≤ k → Extends (call n) (call k))
    (h : call (b + 1) s = some (.ok (answer, t))) :
    ∀ n, b < n → call n s = some (.ok (answer, t)) :=
  fun _ hn => hx hn s _ h

/-- A call that returns with enough bound, and extends with more, is safe. -/
lemma safe_of_answers {holds : α → Cursor → List Char → Prop} {moves : α → Prop}
    (hx : ∀ {n k}, n ≤ k → Extends (call n) (call k))
    (h : ∀ n, rest.length < n → Answers (call n) s rest holds) (hs : s.At source rest)
    (hd : s.depth.level ≤ maxNesting)
    (hm : ∀ {a t after}, holds a t after → moves a → after.length < rest.length) :
    Safe source s call moves := by
  obtain ⟨answer, t, after, ht, hp, ha⟩ := h _ (Nat.lt_succ_of_le hs.length_le)
  exact ⟨answer, t, eq_of_extends hx ht, hp.returned hs hd, fun hv => hp.pos_lt (hm ha hv)⟩

/-- What holds with every value holds if there is one. -/
lemma of_isOk {answer : Except Error α} {p : Prop} (h : ∀ value, answer = .ok value → p)
    (ho : answer.isOk) : p := by
  cases answer with
  | error => cases ho
  | ok value => exact h value rfl

/-- An index has at least one digit. -/
lemma index_answers (place : Nat) {n : Nat} (h : s.At source rest) (hn : rest.length < n) :
    Answers (index source n place) s rest
      fun answer _ after => answer.isOk → after.length < rest.length := by
  refine ⟨_, _, _, index_eq place h hn, .takeWhile _, fun ho => ?_⟩
  -- without digits there is no index
  have hk : rest.takeWhile Char.isDigit ≠ [] := by
    intro h
    rw [h] at ho
    cases ho
  have hl := congrArg List.length (List.takeWhile_append_dropWhile (p := Char.isDigit) (l := rest))
  rw [List.length_append] at hl
  have := List.length_pos_iff.mpr hk
  omega

/-- The call for the nodes of a body, or of a whole source, is safe. -/
lemma elements_safe (place? : Option Nat) (hs : s.At source rest)
    (hd : s.depth.level ≤ maxNesting) :
    Safe source s (elements source · place?) fun answer => place?.isSome ∧ answer.isOk := by
  have hs' : s.enter.At source rest := hs
  obtain ⟨answer, t, after, ht, hp, hr⟩ :=
    below_all source _ hs' (Nat.lt_succ_of_le hs.length_le)
  refine ⟨answer, t.leave, eq_of_extends (fun h => elements_extends (bodiesExtend h))
    (elements_eq ht), hp.returned_leave hs hd, ?_⟩
  rintro ⟨hf, ho⟩
  exact hp.pos_lt (of_isOk (hr.moves hf) ho)

/-- The call for what a `$` begins is safe. -/
lemma dollar_safe (hs : s.At source ('$' :: rest)) (hd : s.depth.level ≤ maxNesting) :
    Safe source s (dollar source) fun _ => True :=
  safe_of_answers (fun h => dollar_extends (bodiesExtend h) h)
    (fun n hn => dollar_answers (below_all source n) hs (Nat.lt_of_succ_lt hn)) hs hd
    fun ha _ => Nat.lt_succ_of_le ha.1

/-- The descent from the front of a source answers with its template, or with the error in it. -/
lemma elements_start (source : String) :
    ∃ t, (∀ n, source.utf8ByteSize < n →
        elements source n none .start = some (.ok (parse source, t))) ∧
      t.depth.peak ≤ maxNesting ∧ t.calls.peak ≤ maxNesting + 1 := by
  have hs : Cursor.start.enter.At source source.toList := ⟨[], rfl, rfl⟩
  obtain ⟨answer, t, after, ht, hp, hr⟩ :=
    below_all source _ hs (Nat.lt_succ_of_le hs.length_le)
  have ha : parse source = answer := by
    have hr' : parse source = answer >>= closing t after [] := hr.agrees [] rfl rfl
    rw [hr']
    cases answer <;> rfl
  refine ⟨t.leave, ?_, hp.deepest, hp.most⟩
  rw [ha]
  exact eq_of_extends (fun h => elements_extends (bodiesExtend h)) (elements_eq ht)

/-- Every call of a descent is safe. From the front of a source the descent reads its template,
never deeper than the limit and with at most one call more than that at a time. -/
theorem calls_safe (source : String) :
    (∀ s : Cursor, IsBoundary source s.pos → s.depth.level ≤ maxNesting → CallsSafe source s) ∧
    ∃ t, (∀ n, source.utf8ByteSize < n →
        elements source n none .start = some (.ok (parse source, t))) ∧
      t.depth.peak ≤ maxNesting ∧ t.calls.peak ≤ maxNesting + 1 := by
  refine ⟨fun s hb hd => ?_, elements_start source⟩
  obtain ⟨rest, hs⟩ := Cursor.exists_at hb
  exact {
    index := fun place =>
      safe_of_answers index_extends (fun n hn => index_answers place hs hn) hs hd fun ha => ha
    nested := fun place =>
      safe_of_answers (fun h => nested_extends (bodiesExtend h))
        (fun n hn => nested_answers place (below_all source n) hs hn) hs hd
        fun ha => of_isOk ha.1
    elements := fun place => (elements_safe (some place) hs hd).mono fun ho => ⟨rfl, ho⟩
    whole := (elements_safe none hs hd).mono False.elim
    dollar := by
      intro h
      rw [peek_eq hs] at h
      cases rest with
      | nil => cases h
      | cons c rest =>
        cases h
        exact dollar_safe hs hd
    braced := fun place =>
      safe_of_answers (fun h => braced_extends (bodiesExtend h) h)
        (fun n hn => braced_answers place (below_all source n) hs hn) hs hd
        fun ha => of_isOk ha.moves
    choice := fun place =>
      safe_of_answers choice_extends
        (fun n hn => optionsFrom_answers place 0 [] "" hs hn) hs hd
        fun ha => of_isOk ha.moves }

/-- At the limit, behind a character of two bytes. -/
theorem calls_safe_at_limit :
    IsBoundary "ü$1" 2 ∧ CallsSafe "ü$1" ⟨2, ⟨64, 64⟩, ⟨65, 65⟩⟩ ∧
      Safe "ü$1" ⟨2, ⟨64, 64⟩, ⟨65, 65⟩⟩ (dollar "ü$1") fun _ => True := by
  have hs : Cursor.At "ü$1" ⟨2, ⟨64, 64⟩, ⟨65, 65⟩⟩ "$1".toList := ⟨['ü'], by decide, rfl⟩
  have safe := (calls_safe "ü$1").1 ⟨2, ⟨64, 64⟩, ⟨65, 65⟩⟩ hs.isBoundary (by decide)
  exact ⟨hs.isBoundary, safe, safe.dollar (peek_eq hs)⟩

end Descent

end TucServer.Template
