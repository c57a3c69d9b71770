import Mathlib.Data.List.Nodup
import Mathlib.Data.Set.List
import Mathlib.Tactic.Lemma
import TucServer.CommandLine

/-!
# Which arguments are accepted

An argument is accepted if it is a flag that was not given before, or two dashes, which are the last
argument then (`Progress.step_eq_ok`). By induction on the arguments, with the flags that were given
before as the state, all arguments are accepted if and only if they spell different flags
(`Progress.exists_spelt` and `Progress.exists_read`), which decides what the program does
(`launch_of_arguments`).
-/

namespace TucServer

namespace CommandLine

/-- Each of the two flags at most once, in any order, and behind them perhaps two dashes. -/
def IsAccepted (arguments : List String) : Prop :=
  ∃ flags : List String, flags.Nodup ∧ flags ⊆ ["--stdio", "--debug"] ∧
    (arguments = flags ∨ arguments = flags ++ ["--"])

/-- The exit status, unless a client is served. -/
def Launch.status? : Launch → Option Nat
  | .serve _ => none
  | .exit code _ _ => some code

/-- The arguments are these flags, perhaps with two dashes behind them. -/
def Spells (arguments : List String) (flags : List Flag) : Prop :=
  arguments = flags.map Flag.text ∨ arguments = flags.map Flag.text ++ ["--"]

/-- Different flags are written differently. -/
lemma Flag.text_injective : Function.Injective Flag.text := by
  intro first second h
  cases first <;> cases second <;> simp [text] at h ⊢

namespace Options

/-- Giving a flag turns on this flag only. -/
lemma has_give (options : Options) (flag other : Flag) :
    (options.give flag).has other = (options.has other || decide (other = flag)) := by
  cases flag <;> cases other <;> simp [give, has]

/-- After several flags were given, a flag is on if it was on before or is one of them. -/
lemma has_foldl_give (options : Options) (flags : List Flag) (flag : Flag) :
    (flags.foldl give options).has flag = (options.has flag || decide (flag ∈ flags)) := by
  induction flags generalizing options with
  | nil => simp
  | cons first flags ih => simp [ih, has_give, Bool.or_assoc]

end Options

namespace Progress

variable {progress next : Progress}

/-- A flag is accepted if it was not given before. -/
lemma flag_eq_ok {flag : Flag} :
    progress.flag flag = .ok next ↔ progress.options.has flag = false ∧
      next = { progress with options := progress.options.give flag } := by
  rw [Progress.flag]
  split
  · rename_i h
    simp [h]
  · rename_i h
    simp [h, eq_comm]

/-- Of the arguments that begin with two dashes only the flags are accepted, without a value. -/
lemma long_eq_ok {name : List Char} {value : Option (List Char)} :
    progress.long name value = .ok next ↔ value = none ∧
      ∃ flag : Flag, String.ofList ('-' :: '-' :: name) = flag.text ∧
        progress.flag flag = .ok next := by
  refine ⟨?_, ?_⟩
  · intro h
    simp only [long] at h
    split at h
    · split at h
      · simp at h
      · refine ⟨rfl, ?_⟩
        split at h
        · rename_i hs
          exact ⟨.stdio, hs, h⟩
        · split at h
          · rename_i hd
            exact ⟨.debug, hd, h⟩
          · split at h <;> simp at h
    · simp at h
  · rintro ⟨rfl, flag, ht, hf⟩
    simp only [long, ht]
    cases flag with
    | stdio => exact hf
    | debug => exact hf

/-- Behind two dashes nothing is accepted. -/
lemma step_of_ended (h : progress.ended = true) (argument : String) :
    progress.step argument = .error (.unknownArgument argument) := by
  rw [step, if_pos h]

/-- The text of a flag is read as this flag. -/
lemma step_text (h : progress.ended = false) (flag : Flag) :
    progress.step flag.text = progress.flag flag := by
  rw [step, if_neg (by simp [h])]
  cases flag <;> rfl

/-- An argument is accepted if it is a flag that was not given before, or the end of the flags, and
none is accepted after that. -/
lemma step_eq_ok {argument : String} :
    progress.step argument = .ok next ↔ progress.ended = false ∧
      ((argument = "--" ∧ next = { progress with ended := true }) ∨
        ∃ flag : Flag, argument = flag.text ∧ progress.options.has flag = false ∧
          next = { progress with options := progress.options.give flag }) := by
  refine ⟨?_, ?_⟩
  · intro h
    have he : progress.ended = false := by
      rw [← Bool.not_eq_true]
      intro he
      simp [step_of_ended he] at h
    refine ⟨he, ?_⟩
    rw [step, if_neg (by simp [he])] at h
    split at h
    · rename_i ha
      have hn : argument = "--" := by
        rw [← String.ofList_toList (s := argument), ha]
      exact .inl ⟨hn, (Except.ok.inj h).symm⟩
    · rename_i rest _ ha
      obtain ⟨hv, flag, ht, hf⟩ := long_eq_ok.mp h
      -- without a value the whole argument is the name
      have hd : rest.dropWhile (· != '=') = [] := by
        cases hd : rest.dropWhile (· != '=') with
        | nil => rfl
        | cons c value => simp [hd] at hv
      have hw : rest.takeWhile (· != '=') = rest := by
        have hr := List.takeWhile_append_dropWhile (p := (· != '=')) (l := rest)
        rwa [hd, List.append_nil] at hr
      rw [hw, ← ha, String.ofList_toList] at ht
      exact .inr ⟨flag, ht, flag_eq_ok.mp hf⟩
    · simp at h
    · simp at h
  · rintro ⟨he, ⟨rfl, rfl⟩ | ⟨flag, rfl, hf⟩⟩
    · rw [step, if_neg (by simp [he])]
      rfl
    · rw [step_text he]
      exact flag_eq_ok.mpr hf

/-- Arguments are accepted if the first one is, and then the others behind it. -/
lemma foldlM_cons_eq_ok {argument : String} {rest : List String} :
    (argument :: rest).foldlM step progress = .ok next ↔
      ∃ between, progress.step argument = .ok between ∧
        rest.foldlM step between = .ok next := by
  rw [List.foldlM_cons]
  cases progress.step argument with
  | error stop => simp [bind, Except.bind]
  | ok between => simp [bind, Except.bind]

/-- Two dashes are the last argument that is accepted. -/
lemma foldlM_of_ended (h : progress.ended = true) {arguments : List String}
    (hr : arguments.foldlM step progress = .ok next) : arguments = [] ∧ progress = next := by
  cases arguments with
  | nil => exact ⟨rfl, Except.ok.inj hr⟩
  | cons argument rest =>
    obtain ⟨between, hs, -⟩ := foldlM_cons_eq_ok.mp hr
    simp [step_of_ended h] at hs

/-- Flags that were not given before are accepted, and are given after that. -/
lemma foldlM_texts {flags : List Flag} (h : progress.ended = false) (hn : flags.Nodup)
    (hf : ∀ flag ∈ flags, progress.options.has flag = false) :
    (flags.map Flag.text).foldlM step progress =
      .ok { progress with options := flags.foldl Options.give progress.options } := by
  induction flags generalizing progress with
  | nil => rfl
  | cons flag flags ih =>
    obtain ⟨hm, hn⟩ := List.nodup_cons.mp hn
    obtain ⟨hg, hf⟩ := List.forall_mem_cons.mp hf
    refine foldlM_cons_eq_ok.mpr ⟨_, step_eq_ok.mpr ⟨h, .inr ⟨flag, rfl, hg, rfl⟩⟩, ih h hn ?_⟩
    -- the flags behind the first one are other flags
    intro other ho
    have hne : other ≠ flag := fun he => hm (he ▸ ho)
    simp [Options.has_give, hf other ho, hne]

/-- Two dashes behind the flags change nothing but that no flag is accepted any more. -/
lemma exists_read {arguments : List String} {flags : List Flag} (ha : Spells arguments flags)
    (h : progress.ended = false) (hn : flags.Nodup)
    (hf : ∀ flag ∈ flags, progress.options.has flag = false) :
    ∃ next, arguments.foldlM step progress = .ok next ∧
      next.options = flags.foldl Options.give progress.options := by
  obtain rfl | rfl := ha
  · exact ⟨_, foldlM_texts h hn hf, rfl⟩
  · refine ⟨⟨_, true⟩, ?_, rfl⟩
    rw [List.foldlM_append, foldlM_texts h hn hf]
    exact foldlM_cons_eq_ok.mpr ⟨_, step_eq_ok.mpr ⟨h, .inl ⟨rfl, rfl⟩⟩, rfl⟩

/-- Only such arguments are accepted. -/
lemma exists_spelt {arguments : List String}
    (hr : arguments.foldlM step progress = .ok next) (h : progress.ended = false) :
    ∃ flags, Spells arguments flags ∧ flags.Nodup ∧
      (∀ flag ∈ flags, progress.options.has flag = false) ∧
      next.options = flags.foldl Options.give progress.options := by
  induction arguments generalizing progress with
  | nil =>
    obtain rfl := Except.ok.inj hr
    exact ⟨[], .inl rfl, List.nodup_nil, nofun, rfl⟩
  | cons argument rest ih =>
    obtain ⟨between, hs, hr⟩ := foldlM_cons_eq_ok.mp hr
    obtain ⟨-, ⟨rfl, rfl⟩ | ⟨flag, rfl, hg, rfl⟩⟩ := step_eq_ok.mp hs
    · obtain ⟨rfl, rfl⟩ := foldlM_of_ended rfl hr
      exact ⟨[], .inr rfl, List.nodup_nil, nofun, rfl⟩
    · obtain ⟨flags, ha, hn, hf, ho⟩ := ih hr h
      -- a flag that is given by now is not accepted once more
      have hf' : ∀ other ∈ flags, progress.options.has other = false ∧ other ≠ flag := by
        intro other hm
        have hg := hf other hm
        rw [Options.has_give, Bool.or_eq_false_iff, decide_eq_false_iff_not] at hg
        exact hg
      refine ⟨flag :: flags, ?_, ?_, ?_, ho⟩
      · obtain rfl | rfl := ha
        · exact .inl rfl
        · exact .inr rfl
      · exact List.nodup_cons.mpr ⟨fun hm => (hf' flag hm).2 rfl, hn⟩
      · exact List.forall_mem_cons.mpr ⟨hg, fun other hm => (hf' other hm).1⟩

end Progress

namespace Spells

variable {arguments : List String} {flags : List Flag}

/-- The flags that arguments spell are those whose texts are among them. -/
lemma text_mem_iff (h : Spells arguments flags) (flag : Flag) :
    flag.text ∈ arguments ↔ flag ∈ flags := by
  have hm : flag.text ∈ flags.map Flag.text ↔ flag ∈ flags :=
    List.mem_map_of_injective Flag.text_injective
  obtain rfl | rfl := h
  · exact hm
  · rw [List.mem_append, hm]
    cases flag <;> simp [Flag.text]

/-- The flags that are read are those among the arguments. -/
lemma foldl_give (h : Spells arguments flags) :
    flags.foldl Options.give Progress.start.options =
      ⟨"--stdio" ∈ arguments, "--debug" ∈ arguments⟩ := by
  have hh : ∀ flag : Flag, (flags.foldl Options.give Progress.start.options).has flag =
      decide (flag.text ∈ arguments) := by
    intro flag
    rw [Options.has_foldl_give, decide_eq_decide.mpr (h.text_mem_iff flag)]
    cases flag <;> rfl
  exact congrArg₂ Options.mk (hh .stdio) (hh .debug)

/-- Arguments that spell different flags are accepted. -/
lemma isAccepted (h : Spells arguments flags) (hn : flags.Nodup) : IsAccepted arguments := by
  refine ⟨flags.map Flag.text, hn.map Flag.text_injective, ?_, h⟩
  intro text ht
  obtain ⟨flag, -, rfl⟩ := List.mem_map.mp ht
  cases flag <;> simp [Flag.text]

end Spells

/-- Accepted arguments spell different flags. -/
lemma IsAccepted.exists_flags {arguments : List String} (h : IsAccepted arguments) :
    ∃ flags : List Flag, Spells arguments flags ∧ flags.Nodup := by
  obtain ⟨texts, hn, hs, ha⟩ := h
  obtain ⟨flags, rfl⟩ : texts ∈ Set.range (List.map Flag.text) := by
    rw [Set.range_list_map]
    intro text ht
    obtain rfl | rfl : text = "--stdio" ∨ text = "--debug" := by simpa using hs ht
    · exact ⟨.stdio, rfl⟩
    · exact ⟨.debug, rfl⟩
  exact ⟨flags, ha, hn.of_map _⟩

/-- What is accepted, and which options are read from it. -/
lemma parse_eq_ok {arguments : List String} {options : Options} :
    parse arguments = .ok options ↔
      IsAccepted arguments ∧ options = ⟨"--stdio" ∈ arguments, "--debug" ∈ arguments⟩ := by
  refine ⟨?_, ?_⟩
  · intro h
    rw [parse] at h
    cases hr : arguments.foldlM Progress.step Progress.start with
    | error stop => simp [hr, Except.map] at h
    | ok next =>
      rw [hr] at h
      obtain rfl : next.options = options := Except.ok.inj h
      obtain ⟨flags, hs, hn, -, ho⟩ := Progress.exists_spelt hr rfl
      exact ⟨hs.isAccepted hn, ho.trans hs.foldl_give⟩
  · rintro ⟨ha, rfl⟩
    obtain ⟨flags, hs, hn⟩ := ha.exists_flags
    have hf : ∀ flag ∈ flags, Progress.start.options.has flag = false := by
      intro flag _
      cases flag <;> rfl
    obtain ⟨next, hr, ho⟩ := Progress.exists_read hs rfl hn hf
    rw [parse, hr, ← hs.foldl_give, ← ho]
    rfl

/-- The first argument that is not accepted decides, whatever stands behind it. -/
lemma parse_append {arguments : List String} {stop : Stop} (h : parse arguments = .error stop)
    (more : List String) : parse (arguments ++ more) = .error stop := by
  rw [parse] at h ⊢
  rw [List.foldlM_append]
  cases hr : arguments.foldlM Progress.step Progress.start with
  | error earlier =>
    rw [hr] at h
    exact h
  | ok next => simp [hr, Except.map] at h

/-- Arguments are accepted if and only if they are different flags, perhaps with two dashes behind
them, and the flags that are read are those that stand there. Once an argument is refused, nothing
that follows changes the reason, and so neither its title and its message nor what the program does.
The server is started if and only if the arguments are accepted and say how to communicate;
otherwise the exit status tells whether that was not said, a text was asked for, or an argument was
refused. -/
theorem launch_of_arguments (arguments : List String) :
    (∀ options, parse arguments = .ok options ↔
        IsAccepted arguments ∧ options = ⟨"--stdio" ∈ arguments, "--debug" ∈ arguments⟩) ∧
      (∀ stop, parse arguments = .error stop → ∀ more,
        parse (arguments ++ more) = .error stop ∧
          launch (arguments ++ more) = launch arguments) ∧
      (∀ debug, launch arguments = .serve debug ↔ parse arguments = .ok ⟨true, debug⟩) ∧
      (∀ debug, parse arguments = .ok ⟨false, debug⟩ → (launch arguments).status? = some 1) ∧
      ∀ stop, parse arguments = .error stop →
        (launch arguments).status? = some (if stop = .help ∨ stop = .version then 0 else 2) := by
  refine ⟨fun _ => parse_eq_ok, ?_, ?_, ?_, ?_⟩
  · intro stop h more
    refine ⟨parse_append h more, ?_⟩
    rw [launch, launch, h, parse_append h more]
  · intro debug
    rw [launch]
    cases hp : parse arguments with
    | error stop => cases stop <;> simp [Stop.isRequest]
    | ok options =>
      obtain ⟨stdio, debug'⟩ := options
      cases stdio <;> simp [Options.isValid]
  · intro debug h
    rw [launch, h]
    rfl
  · intro stop h
    rw [launch, h]
    cases stop <;> rfl

/-- Both flags with the dashes behind them, one flag alone, and a value that is not expected, before
help is asked for. -/
theorem launch_of_arguments_value :
    launch ["--debug", "--stdio", "--"] = .serve true ∧
      (launch ["--debug"]).status? = some 1 ∧
      parse ["--stdio", "--debug=", "--help"] = .error (.unexpectedValue "--debug" "") ∧
      (launch ["--stdio", "--debug=", "--help"]).status? = some 2 := by
  have he : parse ["--stdio", "--debug="] = .error (.unexpectedValue "--debug" "") := rfl
  obtain ⟨ha, -, hs, -, -⟩ := launch_of_arguments ["--debug", "--stdio", "--"]
  obtain ⟨-, -, -, hi, -⟩ := launch_of_arguments ["--debug"]
  obtain ⟨-, hm, -, -, hx⟩ := launch_of_arguments ["--stdio", "--debug="]
  obtain ⟨hp, hl⟩ := hm _ he ["--help"]
  have hb : IsAccepted ["--debug", "--stdio", "--"] :=
    ⟨["--debug", "--stdio"], by decide, by simp, .inr rfl⟩
  exact ⟨(hs true).mpr ((ha _).mpr ⟨hb, rfl⟩), hi true rfl, hp,
    (congrArg Launch.status? hl).trans (hx _ he)⟩

end CommandLine

end TucServer
