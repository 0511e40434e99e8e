import SeedCatalog.CommandLine.Arguments

/-!
# Options in front of other arguments

Arguments are read from the left, and what is read of one of them does not depend on what those
before it asked for.  A change to the options that no later argument undoes is therefore the same
before all arguments are read and after.
-/

namespace SeedCatalog.CommandLine

variable {options : Options} {change : Options → Options} {arguments : List Text}

/-! ## Reading one argument -/

theorem readFrom_dashes :
    readFrom options (['-', '-'] :: arguments) =
      .ok { options with inputs := options.inputs ++ arguments } := by
  rw [readFrom, if_pos rfl]

/-- An option is read first, and then the arguments that it leaves. -/
theorem readFrom_option {argument : Text} (dashes : argument ≠ ['-', '-'])
    (option : isOption argument = true) :
    readFrom options (argument :: arguments) =
      (readOption options argument arguments).bind fun result =>
        readFrom result.1 result.2 := by
  rw [readFrom, if_neg dashes, if_pos option]
  split <;> simp_all [Except.bind]

theorem readFrom_input {argument : Text} (dashes : argument ≠ ['-', '-'])
    (input : ¬isOption argument = true) :
    readFrom options (argument :: arguments) =
      readFrom { options with inputs := options.inputs ++ [argument] } arguments := by
  rw [readFrom, if_neg dashes, if_neg input]

/-! ## Presets -/

/-- A change that is the same before an argument is taken in and after. -/
structure IsPreset (change : Options → Options) : Prop where
  set : ∀ options option value,
    change (options.set option value) = (change options).set option value
  inputs : ∀ options more, change { options with inputs := options.inputs ++ more } =
    { change options with inputs := (change options).inputs ++ more }

/-- To keep warnings back is a preset. -/
theorem isPreset_quiet : IsPreset fun options => { options with quiet := true } where
  set _ option _ := by cases option <;> rfl
  inputs _ _ := rfl

/-- To write to a file is a preset, if a file that is asked for later is preferred. -/
theorem isPreset_output (path : Text) :
    IsPreset fun options => { options with output := options.output <|> some path } where
  set _ option _ := by cases option <;> rfl
  inputs _ _ := rfl

namespace IsPreset

theorem takeNext (preset : IsPreset change) (option : OptionName) (name : Text) :
    CommandLine.takeNext (change options) option name arguments =
      (CommandLine.takeNext options option name arguments).map (Prod.map change id) := by
  cases arguments with
  | nil => rfl
  | cons value rest => simp [CommandLine.takeNext, Except.map, preset.set]

theorem readLetters (preset : IsPreset change) (letters : Text) :
    CommandLine.readLetters (change options) arguments letters =
      (CommandLine.readLetters options arguments letters).map (Prod.map change id) := by
  induction letters generalizing options with
  | nil => rfl
  | cons letter letters ih =>
      rw [CommandLine.readLetters, CommandLine.readLetters]
      cases short? letter with
      | none => rfl
      | some option =>
          simp only
          split
          · split
            · exact preset.takeNext option _
            · simp [Except.map, preset.set]
          · rw [← preset.set, ih]

theorem readOption (preset : IsPreset change) (argument : Text) :
    CommandLine.readOption (change options) argument arguments =
      (CommandLine.readOption options argument arguments).map (Prod.map change id) := by
  simp only [CommandLine.readOption]
  split
  · split
    · simp [Except.map, preset.set]
    · exact preset.takeNext _ _
    · rfl
    · simp [Except.map, preset.set]
  · split
    · rfl
    · exact preset.readLetters _

/-- A preset can be made before arguments are read or after. -/
theorem readFrom (preset : IsPreset change) (options : Options) :
    CommandLine.readFrom (change options) arguments =
      (CommandLine.readFrom options arguments).map change := by
  fun_induction CommandLine.readFrom options arguments with
  | case1 options => rw [CommandLine.readFrom]; rfl
  | case2 options arguments => rw [readFrom_dashes, ← preset.inputs]; rfl
  | case3 options argument arguments dashes option error failed =>
      rw [readFrom_option dashes option, preset.readOption, failed]
      rfl
  | case4 options argument arguments dashes option options' rest read _ ih =>
      rw [readFrom_option dashes option, preset.readOption, read]
      exact ih
  | case5 options argument arguments dashes input ih =>
      rw [readFrom_input dashes input, ← preset.inputs, ih]

end IsPreset

/-! ## Options in front -/

/-- With the option to be quiet in front, the same is asked for, but warnings are kept back. -/
theorem Options.ofArguments_quiet :
    ofArguments (['-', 'q'] :: arguments) =
      (ofArguments arguments).map fun options => { options with quiet := true } := by
  rw [ofArguments, readFrom_option (by decide) rfl]
  exact isPreset_quiet.readFrom {}

/-- With a file to write to in front, the same is asked for, but the catalog goes to that file if
no other is asked for. -/
theorem Options.ofArguments_output (path : Text) :
    ofArguments (['-', 'o'] :: path :: arguments) =
      (ofArguments arguments).map fun options =>
        { options with output := options.output <|> some path } := by
  rw [ofArguments, readFrom_option (by decide) rfl]
  exact (isPreset_output path).readFrom {}

end SeedCatalog.CommandLine
