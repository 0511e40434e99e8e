import SeedCatalog.CommandLine.Request
import SeedCatalog.Files.Access
import SeedCatalog.Text.Similarity

/-!
# Arguments

An argument that begins with a hyphen is an option, unless it is a hyphen alone; two hyphens alone
end the options; all other arguments name inputs.  An option with two hyphens gives its value behind
an equals sign or in the next argument.  Options of one letter can share a hyphen; the value of such
an option is what is left of its argument, or the next argument.  For the name of several letters
that no option has, similar names are suggested.  Where a file is to be named, no directory is.
-/

namespace SeedCatalog.CommandLine

/-- The options. -/
inductive OptionName where
  | output
  | translatable
  | delimiter
  | encoding
  | quiet
  | version
  | help
  deriving DecidableEq, Repr

/-- Whether an option has a value. -/
def OptionName.hasValue : OptionName → Bool
  | .quiet | .version | .help => false
  | _ => true

/-- The names of several letters. -/
def longNames : List (Text × OptionName) :=
  [("--output", .output), ("--translatable", .translatable), ("--delimiter", .delimiter),
    ("--encoding", .encoding), ("--quiet", .quiet), ("--version", .version),
    ("--help", .help)].map fun (name, option) => (String.toList name, option)

/-- The option with a name of several letters. -/
def long? (name : Text) : Option OptionName :=
  (longNames.find? fun entry => entry.1 = name).map (·.2)

/-- The names of several letters that are most similar to a name. -/
def suggestionsFor (name : Text) : List Text :=
  Text.closest name (longNames.map Prod.fst)

/-- The option with a name of one letter. -/
def short? (letter : Char) : Option OptionName :=
  match letter with
  | 'o' => some .output
  | 't' => some .translatable
  | 'q' => some .quiet
  | _ => none

/-- What can be asked for in place of a scan. -/
inductive Notice where
  | version
  | help
  deriving DecidableEq, Repr

/-- What arguments ask for. -/
structure Options extends Request where
  /-- What is asked for in place of a scan. -/
  notice : Option Notice := none
  deriving DecidableEq, Repr

/-- Take in one more option; an option without a value has the empty text for it.  Of several
values of an option the last one counts, but translatable columns add up, and the first notice
counts. -/
def Options.set (options : Options) (option : OptionName) (value : Text) : Options :=
  match option with
  | .output => { options with output := some value }
  | .translatable => { options with translatables := options.translatables ++ [value] }
  | .delimiter => { options with delimiter := some value }
  | .encoding => { options with encoding := some value }
  | .quiet => { options with quiet := true }
  | .version => { options with notice := options.notice <|> some .version }
  | .help => { options with notice := options.notice <|> some .help }

/-- What is wrong with arguments. -/
inductive ArgumentError where
  /-- An option that there is not, with the names that it may stand for. -/
  | unknownOption (name : Text) (suggestions : List Text)
  | valueMissing (name : Text)
  | valueNotTaken (name : Text)
  /-- A directory in place of a file, as the value of a parameter. -/
  | directory (parameter path : Text)
  /-- A path with a character that no path can hold. -/
  | nulInPath
  deriving DecidableEq, Repr

/-- Suggestions in words. -/
def suggest : List Text → Text
  | [] => []
  | [name] => " Did you mean ".toList ++ name.quoted ++ ['?']
  | names =>
      " (Did you mean one of: ".toList ++ Text.join [',', ' '] (names.map Text.quoted) ++
        ['?', ')']

/-- The error in words. -/
def ArgumentError.message : ArgumentError → Text
  | .unknownOption name suggestions =>
      "No such option ".toList ++ name.quoted ++ ['.'] ++ suggest suggestions
  | .valueMissing name => "Option ".toList ++ name.quoted ++ " requires an argument.".toList
  | .valueNotTaken name => "Option ".toList ++ name.quoted ++ " does not take a value.".toList
  | .directory parameter path =>
      "Invalid value for ".toList ++ parameter ++ ": File ".toList ++ path.quoted ++
        " is a directory.".toList
  | .nulInPath => nulInPathMessage

/-- Give an option the next argument as its value; the arguments behind it are left. -/
def takeNext (options : Options) (option : OptionName) (name : Text) :
    List Text → Except ArgumentError (Options × List Text)
  | [] => .error (.valueMissing name)
  | value :: rest => .ok (options.set option value, rest)

/-- Read options of one letter that share a hyphen, with the arguments behind them. -/
def readLetters (options : Options) (arguments : List Text) :
    Text → Except ArgumentError (Options × List Text)
  | [] => .ok (options, arguments)
  | letter :: letters =>
      match short? letter with
      | none => .error (.unknownOption ['-', letter] [])
      | some option =>
          if option.hasValue then
            if letters = [] then takeNext options option ['-', letter] arguments
            else .ok (options.set option letters, arguments)
          else readLetters (options.set option []) arguments letters

/-- The two parts of a text before and after its first equals sign. -/
def cutValue (text : Text) : Text × Option Text :=
  match text.dropWhile (· ≠ '=') with
  | [] => (text, none)
  | _ :: value => (text.takeWhile (· ≠ '='), some value)

/-- Read one option, with the arguments behind it. -/
def readOption (options : Options) (argument : Text) (arguments : List Text) :
    Except ArgumentError (Options × List Text) :=
  let (name, value?) := cutValue argument
  match long? name with
  | some option =>
      match option.hasValue, value? with
      | true, some value => .ok (options.set option value, arguments)
      | true, none => takeNext options option name arguments
      | false, some _ => .error (.valueNotTaken name)
      | false, none => .ok (options.set option [], arguments)
  | none =>
      match argument with
      | '-' :: '-' :: _ => .error (.unknownOption name (suggestionsFor name))
      | _ => readLetters options arguments argument.tail

theorem length_takeNext {options : Options} {option : OptionName} {name : Text}
    {arguments : List Text} {result : Options × List Text}
    (h : takeNext options option name arguments = .ok result) :
    result.2.length ≤ arguments.length := by
  cases arguments with
  | nil => simp [takeNext] at h
  | cons value rest =>
    simp only [takeNext, Except.ok.injEq] at h
    subst h
    simp

theorem length_readLetters {options : Options} {arguments : List Text} {letters : Text}
    {result : Options × List Text} (h : readLetters options arguments letters = .ok result) :
    result.2.length ≤ arguments.length := by
  induction letters generalizing options with
  | nil =>
    simp only [readLetters, Except.ok.injEq] at h
    subst h
    simp
  | cons letter letters ih =>
    rw [readLetters] at h
    split at h
    · simp at h
    · split at h
      · split at h
        · exact length_takeNext h
        · simp only [Except.ok.injEq] at h
          subst h
          simp
      · exact ih h

/-- An option takes up no argument but its own and perhaps the next. -/
theorem length_readOption {options : Options} {argument : Text} {arguments : List Text}
    {result : Options × List Text} (h : readOption options argument arguments = .ok result) :
    result.2.length ≤ arguments.length := by
  simp only [readOption] at h
  split at h
  · split at h
    · simp only [Except.ok.injEq] at h
      subst h
      simp
    · exact length_takeNext h
    · simp at h
    · simp only [Except.ok.injEq] at h
      subst h
      simp
  · split at h
    · simp at h
    · exact length_readLetters h

/-- Whether an argument is an option. -/
def isOption : Text → Bool
  | '-' :: _ :: _ => true
  | _ => false

/-- Read arguments, given the options before them. -/
def readFrom (options : Options) : List Text → Except ArgumentError Options
  | [] => .ok options
  | argument :: arguments =>
      if argument = ['-', '-'] then
        .ok { options with inputs := options.inputs ++ arguments }
      else if isOption argument then
        match h : readOption options argument arguments with
        | .error error => .error error
        | .ok (options, rest) =>
            have : rest.length ≤ arguments.length := length_readOption h
            readFrom options rest
      else readFrom { options with inputs := options.inputs ++ [argument] } arguments
termination_by arguments => arguments.length

/-- What arguments ask for. -/
def Options.ofArguments (arguments : List Text) : Except ArgumentError Options :=
  readFrom {} arguments

/-! ## Files -/

/-- Refuse a path that leads to a directory, given the parameter that it is a value of. -/
def refuseDirectory (view : FileView) (parameter path : Text) : Except ArgumentError Unit :=
  if path.contains (Char.ofNat 0) then .error .nulInPath
  else if path = [] then .ok ()
  else
    match view.find (Path.ofText path) with
    | .ok (_, .directory) => .error (.directory parameter path)
    | _ => .ok ()

/-- Refuse directories among the files of a request. -/
def refuseDirectories (view : FileView) (request : Request) : Except ArgumentError Unit := do
  match request.output with
  | some path => refuseDirectory view "'-o' / '--output'".toList path
  | none => pure ()
  (request.inputs.filter (· ≠ standardInput)).forM (refuseDirectory view "'[FILES]...'".toList)

end SeedCatalog.CommandLine
