import TucServer.Proofs.Template.Continuation
import TucServer.Proofs.Template.Descent

/-!
# What is under the cursor

`Cursor.At source s rest` says that the cursor is between two characters and that `rest` is what
follows. There the procedures that look at the source and move on in it return, and what they answer
and where they leave the cursor is told by `rest`.
-/

namespace TucServer.Template

variable {source : String} {s t : Cursor} {c : Char} {before text rest after : List Char}

/-- A string of characters ends behind their bytes. -/
lemma rawEndPos_ofList (cs : List Char) : (String.ofList cs).rawEndPos = ⟨width cs⟩ := by
  rw [String.Pos.Raw.ext_iff, String.byteIdx_rawEndPos, ← width_toList, String.toList_ofList]

/-- A byte is between two characters if it is behind the bytes of some of them. -/
lemma isBoundary_iff {pos : Nat} : IsBoundary source pos ↔
    ∃ before rest, source.toList = before ++ rest ∧ width before = pos := by
  rw [IsBoundary, String.Pos.Raw.isValid_iff_exists_append]
  constructor
  · rintro ⟨first, second, rfl, hp⟩
    refine ⟨first.toList, second.toList, String.toList_append, ?_⟩
    rw [width_toList]
    exact (congrArg String.Pos.Raw.byteIdx hp).symm
  · rintro ⟨before, rest, hs, rfl⟩
    refine ⟨String.ofList before, String.ofList rest, ?_, ?_⟩
    · rw [← String.ofList_append, ← hs, String.ofList_toList]
    · rw [rawEndPos_ofList]

/-- A byte between two characters splits the source. -/
lemma splits_ofList {pos : source.Pos} (hs : source.toList = before ++ rest)
    (hp : width before = pos.offset.byteIdx) :
    pos.Splits (String.ofList before) (String.ofList rest) := by
  refine ⟨?_, ?_⟩
  · rw [← String.ofList_append, ← hs, String.ofList_toList]
  · rw [rawEndPos_ofList, hp]

/-- What follows the cursor in the source. -/
def Cursor.At (source : String) (s : Cursor) (rest : List Char) : Prop :=
  ∃ before, source.toList = before ++ rest ∧ width before = s.pos

namespace Cursor

/-- A cursor with the rest of the source ahead is between two characters. -/
lemma At.isBoundary (h : At source s rest) : IsBoundary source s.pos := by
  obtain ⟨before, hs⟩ := h
  exact isBoundary_iff.mpr ⟨before, rest, hs⟩

/-- Between two characters something follows the cursor, if only the end. -/
lemma exists_at (h : IsBoundary source s.pos) : ∃ rest, At source s rest := by
  obtain ⟨before, rest, hs⟩ := isBoundary_iff.mp h
  exact ⟨rest, before, hs⟩

/-- Behind a part of what follows, the rest follows. -/
lemma At.advance (h : At source s (text ++ rest)) (ht : t.pos = s.pos + width text) :
    At source t rest := by
  obtain ⟨before, hs, hw⟩ := h
  refine ⟨before ++ text, ?_, ?_⟩
  · rw [hs, List.append_assoc]
  · rw [width_append, hw, ht]

/-- Behind the next character the others follow. -/
lemma At.skip (h : At source s (c :: rest)) : At source (s.advance c.utf8Size) rest :=
  At.advance (show At source s ([c] ++ rest) from h) rfl

/-- There are at least as many bytes as characters ahead. -/
lemma At.length_le (h : At source s rest) : rest.length ≤ source.utf8ByteSize - s.pos := by
  have length_le_width (cs : List Char) : cs.length ≤ width cs := by
    induction cs with
    | nil => exact Nat.le_refl _
    | cons c cs ih =>
      have hc := c.utf8Size_pos
      rw [List.length_cons, width_cons]
      omega
  obtain ⟨before, hs, hw⟩ := h
  have ha := congrArg width hs
  rw [width_toList, width_append, hw] at ha
  have hr := length_le_width rest
  omega

/-- The second cursor is where calls that began at the first have left it: behind a part of what was
ahead. The counts are what they were, and what they have been meanwhile is bounded. -/
structure Passes (s : Cursor) (rest : List Char) (t : Cursor) (after : List Char) : Prop where
  text : ∃ text, rest = text ++ after ∧ t.pos = s.pos + width text
  depth : t.depth.level = s.depth.level
  calls : t.calls.level = s.calls.level
  deepest : t.depth.peak ≤ max s.depth.peak maxNesting
  most : t.calls.peak ≤ max s.calls.peak (s.calls.level + (maxNesting - s.depth.level))

namespace Passes

/-- A cursor that is not moved. -/
lemma refl : Passes s rest s rest where
  text := ⟨[], rfl, rfl⟩
  depth := rfl
  calls := rfl
  deepest := Nat.le_max_left _ _
  most := Nat.le_max_left _ _

/-- A cursor that is moved over a text. -/
lemma advance : Passes s (text ++ rest) (s.advance (width text)) rest where
  text := ⟨text, rfl, rfl⟩
  depth := rfl
  calls := rfl
  deepest := Nat.le_max_left _ _
  most := Nat.le_max_left _ _

/-- A cursor that is moved over one character. -/
lemma skip : Passes s (c :: rest) (s.advance c.utf8Size) rest :=
  show Passes s ([c] ++ rest) _ _ from advance

/-- A cursor that is moved over all characters of a kind. -/
lemma takeWhile (kind : Char → Bool) :
    Passes s rest (s.advance (width (rest.takeWhile kind))) (rest.dropWhile kind) := by
  have h : Passes s (rest.takeWhile kind ++ rest.dropWhile kind) _ _ := advance
  rwa [List.takeWhile_append_dropWhile] at h

/-- What lies between two cursors and what lies behind the second make up what lies between the
first and the last. -/
lemma trans {u : Cursor} {after last : List Char} (h : Passes s rest t after)
    (h' : Passes t after u last) : Passes s rest u last where
  text := by
    obtain ⟨first, rfl, hf⟩ := h.text
    obtain ⟨second, rfl, hs⟩ := h'.text
    refine ⟨first ++ second, (List.append_assoc ..).symm, ?_⟩
    rw [hs, hf, width_append, Nat.add_assoc]
  depth := h'.depth.trans h.depth
  calls := h'.calls.trans h.calls
  deepest := by
    have := h.deepest
    have := h'.deepest
    omega
  most := by
    have hm := h'.most
    rw [h.depth, h.calls] at hm
    have := h.most
    omega

/-- The second cursor is between two characters if the first is. -/
lemma lands (h : Passes s rest t after) (hs : At source s rest) : At source t after := by
  obtain ⟨text, rfl, ht⟩ := h.text
  exact hs.advance ht

/-- There is no more ahead than before. -/
lemma length_le (h : Passes s rest t after) : after.length ≤ rest.length := by
  obtain ⟨text, rfl, -⟩ := h.text
  rw [List.length_append]
  exact Nat.le_add_left _ _

/-- A cursor is never moved back. -/
lemma pos_le (h : Passes s rest t after) : s.pos ≤ t.pos := by
  obtain ⟨text, -, ht⟩ := h.text
  omega

/-- A text that was passed has bytes. -/
lemma pos_lt (h : Passes s rest t after) (hl : after.length < rest.length) : s.pos < t.pos := by
  obtain ⟨text, rfl, ht⟩ := h.text
  cases text with
  | nil => exact absurd hl (Nat.lt_irrefl _)
  | cons c text =>
    have hc := c.utf8Size_pos
    rw [width_cons] at ht
    omega

end Passes

end Cursor

namespace Descent

variable {α β : Type} {m : Descent α} {f : α → Descent β} {value : α} {n : Nat}

/-- A call that returns is followed by what comes behind it, from where it has left the cursor. -/
lemma bind_eq (h : m s = some (.ok (value, t))) : (m >>= f) s = f value t := by
  show (m s >>= fun p => f p.1 p.2) = _
  rw [h]
  rfl

/-- A change of the cursor returns. -/
lemma modify_eq (f : Cursor → Cursor) : (modify f : Descent Unit) s = some (.ok ((), f s)) := rfl

/-- Asking for the cursor returns it. -/
lemma get_eq : (get : Descent Cursor) s = some (.ok (s, s)) := rfl

/-- The next character is the first of what follows. -/
lemma peek_eq (h : s.At source rest) : peek source s = some (.ok (rest.head?, s)) := by
  have hb := h.isBoundary
  obtain ⟨before, hs, hw⟩ := h
  have hc : (source.sliceFrom ⟨⟨s.pos⟩, hb⟩).copy = String.ofList rest :=
    (splits_ofList hs hw).copy_sliceFrom_eq
  unfold peek
  rw [bind_eq get_eq, dif_pos hb, String.Slice.front?_eq, hc, String.toList_ofList]
  rfl

/-- Taking a character moves the cursor behind it. -/
lemma bump_eq (h : s.At source (c :: rest)) :
    bump source s = some (.ok (some c, s.advance c.utf8Size)) := by
  unfold bump
  rw [bind_eq (peek_eq h)]
  rfl

/-- At the end of the source there is none to take. -/
lemma bump_eq_nil (h : s.At source []) : bump source s = some (.ok (none, s)) := by
  unfold bump
  rw [bind_eq (peek_eq h)]
  rfl

/-- A slice from the cursor to behind a text is this text, and does not panic. -/
lemma slice_eq (h : s.At source (text ++ rest)) :
    slice source s.pos (s.pos + width text) t = some (.ok (String.ofList text, t)) := by
  have hb : IsBoundary source s.pos ∧ IsBoundary source (s.pos + width text) ∧
      s.pos ≤ s.pos + width text :=
    ⟨h.isBoundary, (h.advance (t := s.advance (width text)) rfl).isBoundary, Nat.le_add_right _ _⟩
  obtain ⟨before, hs, hw⟩ := h
  have hc : (source.slice ⟨⟨s.pos⟩, hb.1⟩ ⟨⟨s.pos + width text⟩, hb.2.1⟩ hb.2.2).copy =
      String.ofList text := by
    refine (String.copy_slice_eq_iff_splits.mpr ⟨String.ofList before, String.ofList rest, ?_⟩).2
    rw [← String.ofList_append, ← String.ofList_append]
    refine ⟨splits_ofList hs hw, splits_ofList ?_ ?_⟩
    · rw [hs, List.append_assoc]
    · rw [width_append, hw]
  unfold slice
  rw [dif_pos hb, hc]
  rfl

/-- Skipping a kind of characters stops at the first of another kind, with one call for each
character. -/
lemma skipWhile_eq (kind : Char → Bool) (h : s.At source rest) (hn : rest.length < n) :
    skipWhile source kind n s = some (.ok ((), s.advance (width (rest.takeWhile kind)))) := by
  induction n generalizing s rest with
  | zero => exact absurd hn (Nat.not_lt_zero _)
  | succ n ih =>
  rw [skipWhile, bind_eq (peek_eq h)]
  match rest with
  | [] => rfl
  | c :: rest =>
    dsimp only [List.head?_cons]
    by_cases hc : kind c
    · rw [List.takeWhile_cons_of_pos hc, width_cons, if_pos hc, bind_eq (bump_eq h),
        ih h.skip (Nat.lt_of_succ_lt_succ hn)]
      simp only [Cursor.advance, Nat.add_assoc]
    · rw [List.takeWhile_cons_of_neg hc, if_neg hc]
      rfl

/-- Taking a kind of characters answers with those that are skipped. -/
lemma takeWhile_eq (kind : Char → Bool) (h : s.At source rest) (hn : rest.length < n) :
    takeWhile source n kind s = some (.ok (String.ofList (rest.takeWhile kind),
      s.advance (width (rest.takeWhile kind)))) := by
  have hs : s.At source (rest.takeWhile kind ++ rest.dropWhile kind) := by
    rwa [List.takeWhile_append_dropWhile]
  unfold takeWhile
  rw [bind_eq get_eq, bind_eq (skipWhile_eq kind h hn), bind_eq get_eq]
  exact slice_eq hs

/-- An index is made of all the digits that follow. -/
lemma index_eq (place : Nat) (h : s.At source rest) (hn : rest.length < n) :
    index source n place s = some (.ok (indexOf place (String.ofList (rest.takeWhile Char.isDigit)),
      s.advance (width (rest.takeWhile Char.isDigit)))) := by
  unfold index
  rw [bind_eq (takeWhile_eq Char.isDigit h hn)]
  rfl

end Descent

end TucServer.Template
