import TucServer.Proofs.Template.Causes

/-!
# The limit on nesting

The limit refuses a body where as many bodies are open as it allows, and makes no other difference
(`nesting_limit_exact`). How many are open in front of a text is told by closing braces: they make a
template of it when there are enough of them.
-/

namespace TucServer.Template

namespace Reader

variable {most place : Nat} {cs : List Char}

/-- A body is refused behind its label and a colon, where the limit is reached. -/
lemma cause_of_nesting (h : start.run (some most) cs = .error ⟨.nestingTooDeep, place⟩) :
    ∃ before text label rest last, cs = before ++ ('$' :: '{' :: text ++ ':' :: rest) ∧
      width before = place ∧ LabelText text label ∧ start.run (some most) before = .ok last ∧
      last.mode.rests ∧ last.depth = most := by
  obtain ⟨read, c, rest, r, rfl, hr, ht⟩ := run_eq_error h
  cases fails_of_take ht with
  | @nesting _ label hc hl hd =>
    obtain ⟨text, hlt, before, last, rfl, hw, hb, hm, hf⟩ := begins_of_braced hr hl
    refine ⟨before, text, label, rest, last, ?_, hw, hlt, hb, hm, ?_⟩
    · rw [hc, List.append_assoc]
    · have hle : r.depth ≤ most := depth_le_of_run hr
      have hge : most ≤ r.depth := of_decide_eq_true hd
      rw [depth, hf]
      exact Nat.le_antisymm hle hge

end Reader

/-- The limit makes no difference to a source in which it refuses no body. Where it refuses one, the
opening of a field stands there, and exactly as many bodies are open in front of it as the limit
says: with that many closing braces or more the text in front is a template, and with fewer of them
a body stays open. -/
theorem nesting_limit_exact (source : String) :
    ((∀ place, parse source ≠ .error ⟨.nestingTooDeep, place⟩) →
      read none source.toList = parse source) ∧
    (∀ place, parse source = .error ⟨.nestingTooDeep, place⟩ →
      ∃ before text rest label,
        source = before ++ "$\x7b" ++ String.ofList text ++ ":" ++ rest ∧
        before.utf8ByteSize = place ∧ LabelText text label ∧
        ∀ count,
          (maxNesting ≤ count →
            ∃ template, parse (before ++ String.ofList (braces count)) = .ok template) ∧
          (count < maxNesting → ∃ offset,
            parse (before ++ String.ofList (braces count)) =
              .error ⟨.unterminatedPlaceholder, offset⟩)) := by
  constructor
  · intro h
    have hr : Reader.start.run none source.toList =
        Reader.start.run (some maxNesting) source.toList := by
      refine Reader.run_looser nofun fun place hp => h place ?_
      exact congrArg (· >>= Reader.finish) hp
    rw [parse, read, read, hr]
  · intro place h
    rcases parse_eq_error h with ⟨_, hr⟩ | ⟨hu, _⟩
    · obtain ⟨before, text, label, rest, last, hs, hw, hlt, hl, hm, hd⟩ :=
        Reader.cause_of_nesting hr
      have hf : last.settle.frames.length = maxNesting := by
        rw [Reader.settle_frames]
        exact hd
      have hb : last.settle.mode = .body := Reader.settle_mode_of_rests hm
      refine ⟨String.ofList before, text, String.ofList rest, label, ?_, ?_, hlt, fun count => ?_⟩
      · apply String.toList_inj.mp
        rw [hs]
        simp
      · rw [← width_toList, String.toList_ofList, hw]
      · have hc := Reader.readOn_closing (some maxNesting) hb count
        rw [hf] at hc
        rw [← String.ofList_append, parse_ofList, Reader.readOn_append_braces hl hm]
        exact hc
    · cases hu

/-- The 65th body is refused, and the 64 in front of it need as many braces. -/
theorem nesting_limit_exact_deep :
    read none "$\x7ba:$\x7bb:\x7d\x7d".toList = parse "$\x7ba:$\x7bb:\x7d\x7d" ∧
      parse (String.ofList (List.replicate 65 ['$', '{', 'a', ':']).flatten) =
        .error ⟨.nestingTooDeep, 256⟩ ∧
      ∃ before : String, before.utf8ByteSize = 256 ∧
        (∃ template, parse (before ++ String.ofList (braces 64)) = .ok template) ∧
        ∃ offset, parse (before ++ String.ofList (braces 63)) =
          .error ⟨.unterminatedPlaceholder, offset⟩ := by
  have shallow : parse "$\x7ba:$\x7bb:\x7d\x7d" =
      .ok [.field (.name "a") [.field (.name "b") []]] := rfl
  have deep : parse (String.ofList (List.replicate 65 ['$', '{', 'a', ':']).flatten) =
      .error ⟨.nestingTooDeep, 256⟩ := by
    rw [parse_ofList]
    decide +kernel
  obtain ⟨before, _, _, _, _, hw, _, hc⟩ := (nesting_limit_exact _).2 256 deep
  refine ⟨(nesting_limit_exact _).1 ?_, deep, before, hw, (hc 64).1 (Nat.le_refl _),
    (hc 63).2 (by decide)⟩
  intro place h
  rw [shallow] at h
  cases h

end TucServer.Template
