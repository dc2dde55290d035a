import DocMarkdown.CommandLine.Command
import Mathlib.Data.List.TakeWhile
import Mathlib.Tactic.IntervalCases

/-!
# What arguments can spell

Every language can be asked for by arguments, and every heading level in the range of levels; no
other level can.

## Main results

* `Settings.splitOption?_long` — an option by its long name, with its value after an equals sign
* `Settings.inRange_read` — levels that are read are in range
* `Command.exists_arguments` — arguments for the conversion of the standard input
-/

namespace DocMarkdown

variable {s s' : Settings} {arguments : List String} {level : Nat} {language value : String}

namespace Settings

/-! ### Levels -/

/-- The level, if there is one, is in the range of levels. -/
def InRange (s : Settings) : Prop :=
  ∀ level ∈ s.level, levelRange.1 ≤ level ∧ level ≤ levelRange.2

theorem inRange_of_readLevel? (read : readLevel? value = some level) :
    levelRange.1 ≤ level ∧ level ≤ levelRange.2 := by
  simp only [readLevel?, Option.ite_none_right_eq_some, Bool.and_eq_true, decide_eq_true_eq,
    Option.some.injEq] at read
  obtain ⟨⟨⟨-, least⟩, greatest⟩, rfl⟩ := read
  exact ⟨least, greatest⟩

/-- An option that is given a value had none. -/
theorem exists_of_give {α : Type} {key : OptionKey} {old : Option α} {read? : String → Option α}
    {set : Option α → Settings} (given : give key old value read? set = .ok s) :
    ∃ new, read? value = some new ∧ s = set (some new) := by
  rw [give.eq_def] at given
  split at given
  · cases given
  · cases given
  · next new read => exact ⟨new, read, (Except.ok.inj given).symm⟩

/-- An option that is given its value keeps the level in range. -/
theorem InRange.set (before : s.InRange) {key : OptionKey} (given : s.set key value = .ok s') :
    s'.InRange := by
  cases key <;> rw [Settings.set] at given <;> obtain ⟨new, read, rfl⟩ := exists_of_give given
  case level =>
    intro level same
    obtain rfl := Option.some.inj same
    exact inRange_of_readLevel? read
  all_goals exact before

theorem exists_of_bind {α : Type} {step : Except UsageError α} {next : α → Except Halt Settings}
    (read : (do next (← step.mapError Halt.mistake)) = .ok s) :
    ∃ value, step = .ok value ∧ next value = .ok s := by
  cases step with
  | error e => cases read
  | ok value => exact ⟨value, rfl, read⟩

/-- Reading arguments keeps the level in range. -/
theorem InRange.readOnto (before : s.InRange) (read : s.readOnto arguments = .ok s') :
    s'.InRange := by
  -- Three cases go on reading: after the flag, and after a value in the same or the next argument.
  fun_induction Settings.readOnto s arguments with
  | case1 s | case2 s => exact Except.ok.inj read ▸ before
  | case3 | case4 | case5 | case6 | case8 | case10 | case11 => cases read
  | case7 s argument rest _ _ ih =>
    obtain ⟨next, asked, read⟩ := exists_of_bind read
    refine ih next ?_ read
    rw [askForLanguages] at asked
    split at asked
    · cases asked
    · exact Except.ok.inj asked ▸ before
  | case9 s argument rest _ key value _ ih =>
    obtain ⟨next, given, read⟩ := exists_of_bind read
    exact ih next (before.set given) read
  | case12 s argument _ key _ value rest _ ih =>
    obtain ⟨next, given, read⟩ := exists_of_bind read
    exact ih next (before.set given) read

theorem eq_of_check (checked : s.check = .ok s') : s = s' := by
  rw [check] at checked
  split at checked
  · cases checked
  · split at checked
    · cases checked
    · exact Except.ok.inj checked

/-- Levels that are read are in range. -/
theorem inRange_read (read : Settings.read arguments = .ok s) : s.InRange := by
  rw [Settings.read] at read
  cases onto : readOnto {} arguments with
  | error e =>
    rw [onto] at read
    cases read
  | ok own =>
    rw [onto] at read
    cases checked : own.check with
    | error e =>
      simp only [bind, Except.bind, checked] at read
      cases read
    | ok checkedOwn =>
      simp only [bind, Except.bind, checked] at read
      obtain rfl : own = s := (eq_of_check checked).trans (Except.ok.inj read)
      exact InRange.readOnto (fun level none => by cases none) onto

/-! ### Long names -/

/-- An option by its long name, with its value after an equals sign. -/
theorem splitOption?_long (key : OptionKey) (value : String) :
    splitOption? ("--" ++ key.long ++ "=" ++ value) = some (.valued key, some value) := by
  have chars : ("--" ++ key.long ++ "=" ++ value).toList =
      '-' :: '-' :: (key.long.toList ++ '=' :: value.toList) := by
    simp [String.append_assoc]
  have noEquals : '=' ∉ key.long.toList := by cases key <;> simp [OptionKey.long]
  have plain : ∀ c ∈ key.long.toList, (c != '=') = true := fun c member =>
    bne_iff_ne.mpr fun same => noEquals (same ▸ member)
  have known : OptionName.ofLong? key.long = some (.valued key) := by cases key <;> rfl
  rw [splitOption?, chars]
  simp [List.takeWhile_append_of_pos plain, List.dropWhile_append_of_pos plain, known]

theorem readOnto_long (key : OptionKey) (value : String) (rest : List String) :
    s.readOnto (("--" ++ key.long ++ "=" ++ value) :: rest) =
      (do Settings.readOnto (← (s.set key value).mapError .mistake) rest) := by
  have split := splitOption?_long key value
  have apart : "--" ++ key.long ++ "=" ++ value = "--" → False := by
    intro same
    rw [same] at split
    cases split
  rw [Settings.readOnto]
  · simp [split]
  · exact apart

theorem exists_readLevel? (range : levelRange.1 ≤ level ∧ level ≤ levelRange.2) :
    ∃ value, readLevel? value = some level := by
  obtain ⟨least, greatest⟩ := range
  refine ⟨toString level, ?_⟩
  simp only [levelRange] at least greatest
  interval_cases level <;> rfl

end Settings

namespace Command

variable {batch : Batch}

/-- The level of a batch that arguments spell is in range. -/
theorem inRange_of_ofArguments (asked : ofArguments arguments = .ok (.convertDirectory batch)) :
    levelRange.1 ≤ batch.level ∧ batch.level ≤ levelRange.2 := by
  rw [ofArguments] at asked
  cases read : Settings.read arguments with
  | error e =>
    rw [read] at asked
    cases asked
  | ok s =>
    rw [read] at asked
    have asked : s.command = .convertDirectory batch := Except.ok.inj asked
    rw [Settings.command] at asked
    split at asked
    · cases asked
    · split at asked
      · next directory given =>
        obtain rfl := Command.convertDirectory.inj asked
        have range := Settings.inRange_read read
        cases level : s.level with
        | none => simp [Settings.batch, level, defaultLevel, levelRange]
        | some own => simpa [Settings.batch, level] using range own level
      · cases asked

/-- For each language and each level in range there are arguments that ask for the conversion of the
standard input. -/
theorem exists_arguments (language : String)
    (range : levelRange.1 ≤ level ∧ level ≤ levelRange.2) :
    ∃ arguments, ofArguments arguments = .ok (.convertInput language level) := by
  obtain ⟨value, read⟩ := Settings.exists_readLevel? range
  refine ⟨["--" ++ OptionKey.language.long ++ "=" ++ language,
    "--" ++ OptionKey.level.long ++ "=" ++ value], ?_⟩
  have first : ({} : Settings).set .language language = .ok { language := language } := rfl
  have second : ({ language := language } : Settings).set .level value =
      .ok { language := language, level := level } := by
    rw [Settings.set, Settings.give.eq_def, read]
  have onto : Settings.readOnto {} ["--" ++ OptionKey.language.long ++ "=" ++ language,
      "--" ++ OptionKey.level.long ++ "=" ++ value] =
        .ok { language := language, level := level } := by
    rw [Settings.readOnto_long, first]
    change Settings.readOnto { language := language } _ = _
    rw [Settings.readOnto_long, second]
    rfl
  rw [ofArguments, Settings.read, onto]
  rfl

end Command

end DocMarkdown
