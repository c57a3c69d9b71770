import Mathlib.Data.List.Nodup
import Mathlib.Tactic.Lemma
import TucServer.Registry.Store

/-!
# Registrations in the order of their numbers

Where registrations stand in the order of their numbers, the providers of a language come in this
order, whatever the order in which the registrations are visited (`Registration.serving_of_perm`).
-/

namespace TucServer

namespace Registration

/-- Sorting puts registrations in the order of their numbers. -/
lemma pairwise_mergeSort (registrations : List Registration) :
    (registrations.mergeSort (·.id ≤ ·.id)).Pairwise (·.id ≤ ·.id) := by
  have hs : (registrations.mergeSort (·.id ≤ ·.id)).Pairwise fun first second =>
      decide (first.id ≤ second.id) = true := by
    apply List.pairwise_mergeSort
    · intro first second third hab hbc
      exact decide_eq_true (Nat.le_trans (of_decide_eq_true hab) (of_decide_eq_true hbc))
    · intro first second
      simpa using Nat.le_total first.id second.id
  exact hs.imp of_decide_eq_true

/-- Whatever the order of the visit, the providers come in the order of the numbers. -/
lemma serving_of_perm {registrations visited : List Registration}
    (h : registrations.Pairwise (·.id < ·.id)) (hp : visited.Perm registrations)
    (language : String) :
    serving visited language =
      (registrations.filter (·.language == language)).map (·.provider) := by
  have hv := (List.mergeSort_perm (visited.filter (·.language == language)) (·.id ≤ ·.id)).trans
    (hp.filter (·.language == language))
  have ha := h.filter (·.language == language)
  -- two registrations with one number are the same one, so there is one order only
  have hn := List.pairwise_map.mpr (ha.imp Nat.ne_of_lt)
  have he := hv.eq_of_pairwise
    (fun first second hf hs hle hge =>
      List.inj_on_of_nodup_map hn (hv.subset hf) hs (Nat.le_antisymm hle hge))
    (pairwise_mergeSort _) (ha.imp Nat.le_of_lt)
  exact congrArg (·.map (·.provider)) he

end Registration

/-- Numbers below the bound of the counter stay distinct in the counter. -/
lemma nodup_map_uint64 {ids : List Nat} (h : ids.Nodup) (hb : ∀ id ∈ ids, id < UInt64.size) :
    (ids.map UInt64.ofNat).Nodup := by
  refine h.map_on fun first hf second hs he => ?_
  have hn := congrArg UInt64.toNat he
  rwa [UInt64.toNat_ofNat_of_lt' (hb first hf), UInt64.toNat_ofNat_of_lt' (hb second hs)] at hn

end TucServer
