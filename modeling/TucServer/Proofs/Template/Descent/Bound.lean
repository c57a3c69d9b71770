import Mathlib.Tactic.Lemma
import TucServer.Proofs.Template.Descent

/-!
# The bound on the calls

A procedure that returns does so with every higher bound on its calls as well, and with the same
answer and cursor: with the higher bound it extends what it is with the lower one (`Extends`).
-/

namespace TucServer.Template

namespace Descent

variable {α β : Type} {source : String} {n k place : Nat}

/-- Where the first procedure returns or panics, so does the second. -/
def Extends (m m' : Descent α) : Prop :=
  ∀ s result, m s = some result → m' s = some result

namespace Extends

variable {m m' : Descent α} {f f' : α → Descent β}

/-- Every procedure extends itself. -/
lemma refl : Extends m m :=
  fun _ _ h => h

/-- What never returns is extended by every procedure. -/
lemma never : Extends never m :=
  fun _ _ h => nomatch h

/-- One procedure after the other extends if both do. -/
lemma bind (hm : Extends m m') (hf : ∀ value, Extends (f value) (f' value)) :
    Extends (m >>= f) (m' >>= f') := by
  intro s result h
  have h' : (m s >>= fun p => f p.1 p.2) = some result := h
  show (m' s >>= fun p => f' p.1 p.2) = some result
  match hs : m s with
  | none =>
    rw [hs] at h'
    cases h'
  | some (.error panic) =>
    rw [hs] at h'
    rw [hm s _ hs]
    exact h'
  | some (.ok (value, t)) =>
    rw [hs] at h'
    rw [hm s _ hs]
    exact hf value t result h'

end Extends

/-- Skipping characters extends with the bound: it takes one call for each. -/
lemma skipWhile_extends (kind : Char → Bool) (h : n ≤ k) :
    Extends (skipWhile source kind n) (skipWhile source kind k) := by
  induction n generalizing k with
  | zero => exact .never
  | succ n ih =>
  match k, h with
  | k + 1, h =>
    refine .bind .refl fun c? => ?_
    cases c? with
    | none => exact .refl
    | some c =>
      dsimp only
      split
      · exact .bind .refl fun _ => ih (Nat.le_of_succ_le_succ h)
      · exact .refl

/-- Taking characters extends with the bound, as skipping them does. -/
lemma takeWhile_extends (kind : Char → Bool) (h : n ≤ k) :
    Extends (takeWhile source n kind) (takeWhile source k kind) :=
  .bind .refl fun _ => .bind (skipWhile_extends kind h) fun _ => .refl

/-- Taking an index extends with the bound, as taking its digits does. -/
lemma index_extends (h : n ≤ k) : Extends (index source n place) (index source k place) :=
  .bind (takeWhile_extends Char.isDigit h) fun _ => .refl

/-- Taking options extends with the bound: it takes one call for each character or mark. -/
lemma optionsFrom_extends {options : List String} {current : String} (h : n ≤ k) :
    Extends (optionsFrom source place n options current)
      (optionsFrom source place k options current) := by
  induction n generalizing k options current with
  | zero => exact .never
  | succ n ih =>
  match k, h with
  | k + 1, h =>
    have h' := Nat.le_of_succ_le_succ h
    refine .bind .refl fun c? => ?_
    cases c? with
    | none => exact .refl
    | some c =>
      dsimp only
      split
      · exact .bind .refl fun _ => ih h'
      split
      · exact ih h'
      split
      · exact .refl
      · exact ih h'

/-- Taking a choice extends with the bound, as taking its options does. -/
lemma choice_extends (h : n ≤ k) : Extends (choice source n place) (choice source k place) :=
  optionsFrom_extends h

/-- The nodes of bodies are read with the higher bound where they are with the lower one. -/
def BodiesExtend (source : String) (n k : Nat) : Prop :=
  ∀ place? nodes, Extends (elementsFrom source n place? nodes) (elementsFrom source k place? nodes)

/-- Taking the nodes of a body extends where bodies do. -/
lemma elements_extends {place? : Option Nat} (hb : BodiesExtend source n k) :
    Extends (elements source n place?) (elements source k place?) := by
  unfold elements
  exact .bind .refl fun _ => .bind (hb place? []) fun _ => .refl

/-- Taking the body of a field extends where bodies do. -/
lemma nested_extends (hb : BodiesExtend source n k) :
    Extends (nested source n place) (nested source k place) := by
  unfold nested
  refine .bind .refl fun cursor => ?_
  split
  · exact .refl
  · exact .bind .refl fun _ => .bind (elements_extends hb) fun _ => .refl

/-- Taking what follows a label in braces extends where bodies do. -/
lemma labelled_extends {label : Label} (hb : BodiesExtend source n k) (h : n ≤ k) :
    Extends (labelled source n place label) (labelled source k place label) := by
  unfold labelled
  refine .bind .refl fun c? => ?_
  cases c? with
  | none => exact .refl
  | some c =>
    dsimp only
    split
    · exact .refl
    split
    · exact .bind .refl fun _ => .bind (nested_extends hb) fun _ => .refl
    cases label with
    | name => exact .refl
    | index value =>
      dsimp only
      split
      · exact .bind .refl fun _ => .bind (choice_extends h) fun _ => .refl
      · exact .refl

/-- Taking what follows an opening brace extends where bodies do. -/
lemma braced_extends (hb : BodiesExtend source n k) (h : n ≤ k) :
    Extends (braced source n place) (braced source k place) := by
  unfold braced
  refine .bind .refl fun c? => ?_
  cases c? with
  | none => exact .refl
  | some c =>
    dsimp only
    split
    · refine .bind (index_extends h) fun answer => ?_
      cases answer with
      | error => exact .refl
      | ok value => exact labelled_extends hb h
    split
    · exact .bind (takeWhile_extends isNameChar h) fun _ => labelled_extends hb h
    · exact .refl

/-- Taking what a `$` begins extends where bodies do. -/
lemma dollar_extends (hb : BodiesExtend source n k) (h : n ≤ k) :
    Extends (dollar source n) (dollar source k) := by
  unfold dollar
  refine .bind .refl fun cursor => .bind .refl fun _ => ?_
  unfold behindDollar
  refine .bind .refl fun c? => ?_
  cases c? with
  | none => exact .refl
  | some c =>
    dsimp only
    split
    · exact .bind (index_extends h) fun _ => .refl
    split
    · exact .bind (takeWhile_extends isNameChar h) fun _ => .refl
    split
    · exact .bind .refl fun _ => .bind (braced_extends hb h) fun _ => .refl
    · exact .refl

/-- Bodies extend, by induction on the lower bound: each item leaves one call less to those behind
it. -/
lemma bodiesExtend (h : n ≤ k) : BodiesExtend source n k := by
  induction n generalizing k with
  | zero =>
    intro place? nodes
    rw [elementsFrom.eq_def]
    exact .never
  | succ n ih =>
  match k, h with
  | k + 1, h =>
    have h' := Nat.le_of_succ_le_succ h
    intro place? nodes
    rw [elementsFrom.eq_def, elementsFrom.eq_def source (k + 1)]
    refine .bind .refl fun c? => ?_
    cases c? with
    | none => exact .refl
    | some c =>
      dsimp only
      split
      · exact .refl
      split
      · exact .bind .refl fun _ => .bind .refl fun _ => ih h' _ _
      split
      · refine .bind (dollar_extends (ih h') h') fun answer => ?_
        match answer with
        | .ok (some node) => exact ih h' _ _
        | .ok none => exact ih h' _ _
        | .error error => exact .refl
      · exact .bind .refl fun _ => ih h' _ _

end Descent

end TucServer.Template
