import TucServer.Proofs.Template.Soundness
import TucServer.Proofs.Template.Steps

/-!
# Where constructs begin

Every construct and every body that is open in a reader began with a `$`, and the reader keeps the
place of it. `Reader.Trail` says what the places mean: the source can be cut there, a reader in a
body reads the part in front, and the other part begins with what has been read of the construct.
`Reader.trail_of_run` proves it of every reader on the way through a source. A place that was not
open before can only lie in what has been read since (`Reader.isOpen_of_run`).
-/

namespace TucServer.Template

/-- The text of a construct as far as it has been read. What stands in a list of options does not
matter here. -/
inductive Mode.Head : Mode → List Char → Prop where
  | dollar {place} :
    Head (.dollar place) ['$']
  | bare {place text label} :
    LabelText text label →
    Head (.bare place label) ('$' :: text)
  | brace {place} :
    Head (.brace place) ['$', '{']
  | braced {place text label} :
    LabelText text label →
    Head (.braced place label) ('$' :: '{' :: text)
  | choice {mode place text} :
    mode.choice? = some place →
    Head mode ('$' :: '{' :: text)

/-- A construct that does not rest began with a `$` and a brace. -/
lemma Mode.Head.brace_of_not_rests {mode : Mode} {text : List Char} (h : mode.Head text)
    (hr : mode.rests = false) : ∃ rest, text = '$' :: '{' :: rest := by
  cases h with
  | dollar | bare => cases hr
  | brace | braced | choice => exact ⟨_, rfl⟩

/-- Of a construct at least its `$` has been read. -/
lemma Mode.Head.ne_nil {mode : Mode} {text : List Char} (h : mode.Head text) : text ≠ [] := by
  cases h <;> exact List.cons_ne_nil _ _

/-- A character with which a construct goes on is read as part of it. -/
lemma Mode.Head.goesOn {mode next : Mode} {text : List Char} {c : Char} (h : mode.Head text)
    (hg : mode.GoesOn c next) : next.Head (text ++ [c]) := by
  cases hg with
  | bare hs =>
    cases h with
    | dollar => exact .bare (.of_start hs)
    | choice hc => cases hc
  | brace =>
    cases h with
    | dollar => exact .brace
    | choice hc => cases hc
  | bareLabel hc hr =>
    cases h with
    | bare hl => exact .bare (hl.extend hc hr)
    | choice hc => cases hc
  | braced hs =>
    cases h with
    | brace => exact .braced (.of_start hs)
    | choice hc => cases hc
  | bracedLabel hc hr =>
    cases h with
    | braced hl => exact .braced (hl.extend hc hr)
    | choice hc => cases hc
  | options =>
    cases h with
    | braced => exact .choice rfl
    | choice hc => cases hc
  | choice hc hn =>
    cases h with
    | choice => exact .choice hn
    | _ => cases hc

/-- A construct keeps its place as it goes on. -/
lemma Mode.GoesOn.place?_eq {mode next : Mode} {c : Char} (h : mode.GoesOn c next) :
    next.place? = mode.place? := by
  have place {mode : Mode} {place : Nat} (hc : mode.choice? = some place) :
      mode.place? = some place := by
    cases mode <;> first | exact hc | cases hc
  cases h with
  | choice hc hn => rw [place hc, place hn]
  | _ => rfl

namespace Reader

/-- The source can be cut at this place, which lies in a body with these frames around it, and goes
on with the text from there. -/
def Begins (limit : Option Nat) (cs : List Char) (place : Nat) (frames : List Frame)
    (text : List Char) : Prop :=
  ∃ before r, cs = before ++ text ∧ width before = place ∧ start.run limit before = .ok r ∧
    r.mode.rests ∧ r.frames = frames

/-- What a reader says of the beginnings of what is open is true of the source. -/
structure Trail (limit : Option Nat) (cs : List Char) (r : Reader) : Prop where
  /-- The construct that is being read begins at its place. -/
  construct : ∀ place, r.mode.place? = some place →
    ∃ text, r.mode.Head text ∧ Begins limit cs place r.frames text
  /-- The field of every open body begins at the place of its frame. -/
  frames : ∀ frame ∈ r.frames,
    ∃ text frames, Begins limit cs frame.place frames ('$' :: '{' :: text)

variable {limit : Option Nat} {first r next : Reader} {c : Char} {cs text : List Char}
variable {place most : Nat} {error : Error} {around : List Frame}

/-- More of the source leaves the cut where it is. -/
lemma Begins.append (h : Begins limit cs place around text) (more : List Char) :
    Begins limit (cs ++ more) place around (text ++ more) := by
  obtain ⟨before, r, rfl, hw, hr, hm, hf⟩ := h
  exact ⟨before, r, List.append_assoc before text more, hw, hr, hm, hf⟩

/-- More of the source leaves the beginnings of the open bodies where they are. -/
lemma Trail.frames_append (h : Trail limit cs r) (more : List Char) :
    ∀ frame ∈ r.frames,
      ∃ text frames, Begins limit (cs ++ more) frame.place frames ('$' :: '{' :: text) := by
  intro frame hf
  obtain ⟨text, frames, hb⟩ := h.frames frame hf
  exact ⟨text ++ more, frames, hb.append more⟩

/-- A step keeps the places true. -/
lemma Trail.moves (h : Trail limit cs r) (hr : start.run limit cs = .ok r)
    (hm : r.Moves limit c next) :
    Trail limit (cs ++ [c]) { next with offset := r.offset + c.utf8Size } := by
  have frames := h.frames_append [c]
  cases hm with
  | goesOn hg =>
    refine ⟨?_, frames⟩
    intro place hp
    obtain ⟨text, ht, hb⟩ := h.construct place (hg.place?_eq ▸ hp)
    exact ⟨text ++ [c], ht.goesOn hg, hb.append [c]⟩
  | escaped => exact ⟨nofun, frames⟩
  | backslash =>
    rw [← settle_frames] at frames
    exact ⟨nofun, frames⟩
  | dollar hc hl =>
    subst hc
    rw [← settle_frames] at frames
    refine ⟨?_, frames⟩
    intro place hp
    have ho : width cs = place := by
      have hw : r.settle.offset = place := Option.some.inj hp
      rw [← hw, settle_offset, run_offset hr]
      exact (Nat.zero_add _).symm
    exact ⟨['$'], .dollar, cs, r, rfl, ho, hr, (Mode.leaves_iff_rests rfl).mp hl,
      settle_frames.symm⟩
  | text =>
    rw [← settle_frames] at frames
    exact ⟨nofun, frames⟩
  | closes _ _ hf =>
    rw [hf] at frames
    exact ⟨nofun, fun frame hm => frames frame (List.mem_cons_of_mem _ hm)⟩
  | node => exact ⟨nofun, frames⟩
  | @opens place label _ hl _ =>
    refine ⟨nofun, ?_⟩
    intro frame hm
    rcases List.mem_cons.mp hm with rfl | hm
    · obtain ⟨text, ht, hb⟩ := h.construct place (by rw [hl]; rfl)
      rw [hl] at ht
      cases ht with
      | @braced _ text _ _ => exact ⟨text ++ [c], r.frames, hb.append [c]⟩
      | choice hc => cases hc
    · exact frames frame hm

/-- At the front of a source nothing is open. -/
lemma trail_start : Trail limit [] start :=
  ⟨nofun, fun _ hm => absurd hm List.not_mem_nil⟩

/-- The places in every reader on the way through a source are true. -/
lemma trail_of_run (h : start.run limit cs = .ok r) : Trail limit cs r := by
  refine run_induction (motive := Trail limit) trail_start ?_ h
  intro cs r c next hr ht hm
  exact ht.moves hr hm

/-- A label that is read directly behind a `$` begins at the place of that `$`. -/
lemma begins_of_bare {label : Label} (h : start.run limit cs = .ok r)
    (hm : r.mode = .bare place label) :
    ∃ text, LabelText text label ∧ Begins limit cs place r.frames ('$' :: text) := by
  obtain ⟨text, hh, hb⟩ := (trail_of_run h).construct place (by rw [hm]; rfl)
  rw [hm] at hh
  cases hh with
  | bare hl => exact ⟨_, hl, hb⟩
  | choice hc => cases hc

/-- A label that is read in braces begins at the `$` in front of them. -/
lemma begins_of_braced {label : Label} (h : start.run limit cs = .ok r)
    (hm : r.mode = .braced place label) :
    ∃ text, LabelText text label ∧ Begins limit cs place r.frames ('$' :: '{' :: text) := by
  obtain ⟨text, hh, hb⟩ := (trail_of_run h).construct place (by rw [hm]; rfl)
  rw [hm] at hh
  cases hh with
  | braced hl => exact ⟨_, hl, hb⟩
  | choice hc => cases hc

/-- No more bodies are open than the limit allows. -/
lemma depth_le_of_run (h : start.run (some most) cs = .ok r) : r.depth ≤ most := by
  refine run_induction (motive := fun _ r => r.frames.length ≤ most) ?_ ?_ h
  · exact Nat.zero_le most
  intro cs r c next _ hr hm
  have hs : r.settle.frames.length ≤ most := by
    rw [settle_frames]
    exact hr
  cases hm with
  | goesOn | escaped | node => exact hr
  | backslash | dollar | text => exact hs
  | closes _ _ hf =>
    rw [hf] at hr
    exact Nat.le_of_succ_le hr
  | opens _ _ hd => exact hd most rfl

/-- A construct or a body that is open begins at this place. -/
def IsOpen (r : Reader) (place : Nat) : Prop :=
  r.mode.place? = some place ∨ ∃ frame ∈ r.frames, frame.place = place

/-- The end of the source blames what is open. -/
lemma isOpen_of_finish (h : r.finish = .error error) : r.IsOpen error.offset := by
  obtain ⟨o, mode, ns, fs⟩ := r
  cases mode with
  | body | escape | dollar | bare =>
    cases fs with
    | nil => cases h
    | cons frame fs =>
      cases h
      exact .inr ⟨frame, List.mem_cons_self, rfl⟩
  | _ =>
    cases h
    exact .inl rfl

/-- A step opens nothing but what begins with its character. -/
lemma Moves.isOpen (hm : r.Moves limit c next) (ho : next.IsOpen place) :
    r.IsOpen place ∨ place = r.offset := by
  -- most steps leave no construct open and no more bodies than before
  have fewer {next : Reader} (ho : next.IsOpen place) (hn : next.mode.place? = none)
      (hf : next.frames ⊆ r.frames) : r.IsOpen place := by
    rcases ho with hp | ⟨frame, hm, hp⟩
    · rw [hn] at hp
      cases hp
    · exact .inr ⟨frame, hf hm, hp⟩
  have same : r.settle.frames ⊆ r.frames := by
    rw [settle_frames]
    exact List.Subset.refl r.frames
  cases hm with
  | goesOn hg =>
    refine .inl (ho.imp_left fun hp => ?_)
    rw [← hg.place?_eq]
    exact hp
  | escaped => exact .inl (fewer ho rfl (List.Subset.refl r.frames))
  | backslash => exact .inl (fewer ho rfl same)
  | dollar =>
    rcases ho with hp | ⟨frame, hm, hp⟩
    · rw [← settle_offset]
      exact .inr (Option.some.inj hp).symm
    · exact .inl (.inr ⟨frame, same hm, hp⟩)
  | text => exact .inl (fewer ho rfl same)
  | closes _ _ he =>
    refine .inl (fewer ho rfl ?_)
    rw [he]
    exact List.subset_cons_self _ _
  | node => exact .inl (fewer ho rfl (List.Subset.refl r.frames))
  | opens _ hl _ =>
    rcases ho with hp | ⟨frame, hm, hp⟩
    · cases hp
    · rcases List.mem_cons.mp hm with rfl | hm
      · refine .inl (.inl ?_)
        rw [hl, ← hp]
        rfl
      · exact .inl (.inr ⟨frame, hm, hp⟩)

/-- What is open was open before, or begins in what has been read since. -/
lemma isOpen_of_run (h : first.run limit cs = .ok r) (ho : r.IsOpen place) :
    first.IsOpen place ∨ first.offset ≤ place := by
  refine run_induction
    (motive := fun _ r => ∀ place, r.IsOpen place → first.IsOpen place ∨ first.offset ≤ place)
    (fun _ ho => .inl ho) ?_ h place ho
  intro cs r c next hr ih hm place ho
  rcases hm.isOpen ho with ho | rfl
  · exact ih place ho
  · rw [run_offset hr]
    exact .inr (Nat.le_add_right _ _)

end Reader

end TucServer.Template
