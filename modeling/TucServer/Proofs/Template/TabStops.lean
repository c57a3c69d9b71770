import Mathlib.Data.List.Destutter
import Mathlib.Data.List.Sort
import TucServer.Template.Node

/-!
# Tab stops

The tab stops of a template are the indices that occur anywhere in it, in ascending order
(`tabStops_sorted_set`). `Occurs` says what it is to occur: to stand among the nodes, or in the body
of a field that does, be it a tab stop or a variable. In a list that ascends all repetitions are
immediate ones, so that none is left.
-/

namespace TucServer.Template

/-- The index of a tab stop or of a choice. -/
def Node.index? : Node → Option Nat
  | .field (.index value) _ => some value
  | .field (.name _) _ => none
  | .choice index _ => some index
  | .text _ => none

/-- The node stands in the template, at any depth. -/
inductive Occurs (node : Node) : Template → Prop where
  | here {template} :
    node ∈ template →
    Occurs node template
  | inside {label body template} :
    .field label body ∈ template →
    Occurs node body →
    Occurs node template

variable {node : Node} {template : Template} {i : Nat}

/-- What occurs in a template also occurs behind one more node. -/
lemma Occurs.cons (h : Occurs node template) (first : Node) : Occurs node (first :: template) := by
  cases h with
  | here hm => exact .here (List.mem_cons_of_mem first hm)
  | inside hm hb => exact .inside (List.mem_cons_of_mem first hm) hb

namespace Node

/-- The indices in a node are its own and those in its body. -/
lemma mem_indices : i ∈ node.indices ↔
    node.index? = some i ∨ ∃ label body, node = .field label body ∧ i ∈ indicesAll body := by
  match node with
  | .text _ => simp [indices, index?]
  | .choice index _ => simp [indices, index?, eq_comm]
  | .field (.index value) body => simp [indices, index?, eq_comm]
  | .field (.name _) body => simp [indices, index?]

/-- The indices in a template are those in its nodes. -/
lemma mem_indicesAll : i ∈ indicesAll template ↔ ∃ node ∈ template, i ∈ node.indices := by
  induction template with
  | nil => simp [indicesAll]
  | cons node template ih => simp [indicesAll, ih]

end Node

/-- An index that occurs is collected. -/
lemma Occurs.mem_indicesAll (h : Occurs node template) (hi : node.index? = some i) :
    i ∈ Node.indicesAll template := by
  rw [Node.mem_indicesAll]
  induction h with
  | here hm => exact ⟨node, hm, Node.mem_indices.mpr (.inl hi)⟩
  | @inside label body template hm _ ih =>
    rw [← Node.mem_indicesAll] at ih
    exact ⟨.field label body, hm, Node.mem_indices.mpr (.inr ⟨label, body, rfl, ih⟩)⟩

/-- An index that is collected occurs. -/
lemma exists_occurs : ∀ {template : Template}, i ∈ Node.indicesAll template →
    ∃ node, Occurs node template ∧ node.index? = some i
  | node :: template, h => by
    rw [Node.indicesAll, List.mem_append] at h
    rcases h with h | h
    · rcases Node.mem_indices.mp h with hi | ⟨label, body, rfl, hb⟩
      · exact ⟨node, .here List.mem_cons_self, hi⟩
      · obtain ⟨inner, ho, hi⟩ := exists_occurs hb
        exact ⟨inner, .inside List.mem_cons_self ho, hi⟩
    · obtain ⟨inner, ho, hi⟩ := exists_occurs h
      exact ⟨inner, ho.cons node, hi⟩

/-- Dropping immediate repetitions is `List.destutter`. -/
lemma dropRepeats_eq_destutter (indices : List Nat) :
    dropRepeats indices = indices.destutter (· ≠ ·) := by
  fun_induction dropRepeats indices with
  | case1 => rfl
  | case2 => rfl
  | case3 i rest ih => rw [ih, List.destutter_cons_cons, if_neg (by simp), List.destutter_cons']
  | case4 i j rest hn ih => rw [ih, List.destutter_cons_cons, if_pos hn, List.destutter_cons']

/-- Of a sorted list all repetitions are dropped. -/
lemma tabStops_eq_dedup (template : Template) :
    tabStops template = ((Node.indicesAll template).mergeSort (· ≤ ·)).dedup := by
  rw [tabStops, dropRepeats_eq_destutter]
  exact List.sortedLE_mergeSort.pairwise.destutter_eq_dedup

/-- The tab stops ascend strictly, and they are the indices of the tab stops and choices that occur
in the template. -/
theorem tabStops_sorted_set (template : Template) :
    (tabStops template).Pairwise (· < ·) ∧
      ∀ i, i ∈ tabStops template ↔ ∃ node, Occurs node template ∧ node.index? = some i := by
  rw [tabStops_eq_dedup]
  constructor
  · have hs := (List.sortedLE_mergeSort (l := Node.indicesAll template)).pairwise.sublist
      (List.dedup_sublist _)
    exact (hs.sortedLE.sortedLT_of_nodup (List.nodup_dedup _)).pairwise
  · intro i
    rw [List.mem_dedup, List.mem_mergeSort]
    constructor
    · exact exists_occurs
    · rintro ⟨node, ho, hi⟩
      exact ho.mem_indicesAll hi

/-- An index under a variable, and one that is repeated with another between. -/
example : tabStops [.field (.index 7) [.text "x", .field (.name "v") [.choice 2 ["a"]]],
    .field (.name "w") [.field (.index 0) [], .field (.index 7) []]] = [0, 2, 7] := by
  cbv

end TucServer.Template
