/-
# Settings that are saved

The command line, the environment and the configuration file each give some of the
settings.  Writing the configuration file decides between them first: what is saved has a
URL and a directory, and standard values stand where nothing was given.  So a later run
that nothing is given to finds in the file all that the run before would have used, and
saving once more writes the same file.

Of the library for configuration texts one thing is assumed: what it writes for a table it
reads as a table with the same values.
-/
import ClientGen.Command.Run
import ClientGen.Proofs.ConfigErrors
import ClientGen.Proofs.Walks

namespace ClientGen

namespace Toml

variable {σ : Type} {library : Library σ} {table : List (Text × σ)} {text : Text}

/-- What the library writes for a table it reads, as the text of a file, as a table with the
same value under each name. -/
def Library.ReadsBack (library : Library σ) (table : List (Text × σ)) : Prop :=
  ∀ text, library.write? table = some text →
    ∃ back, library.read (Text.unifyNewlines text) = .ok back ∧
      ∀ key, Ordered.get? key back = Ordered.get? key table

/-- A table whose text is read as the same table. -/
theorem Library.ReadsBack.of_read (form : library.write? table = some text)
    (back : library.read (Text.unifyNewlines text) = .ok table) : library.ReadsBack table := by
  intro text' form'
  rw [form] at form'
  cases form'
  exact ⟨table, back, fun _ => rfl⟩

end Toml

namespace Config

open Toml.ValueType

variable {σ : Type} [Toml.ValueType σ] {library : Toml.Library σ} {tree later : FileTree}
  {path : Text} {config : Config σ}

/-! ## Tables -/

/-- The URL and the directory are set. -/
structure IsComplete (config : Config σ) : Prop where
  url : ∃ value, config.url = some value
  directory : ∃ value, config.directory = some value

/-- Only the values under the names matter for the settings of a table. -/
theorem ofTable_congr {table table' : List (Text × σ)}
    (h : ∀ key, Ordered.get? key table = Ordered.get? key table') :
    ofTable table = ofTable table' := by
  simp only [ofTable, limitOf, timeOf, ofNumbers, h]

/-- Complete settings are those of their table. -/
theorem ofTable_toTable (h : config.IsComplete) : ofTable config.toTable = .ok config := by
  obtain ⟨⟨url, hasUrl⟩, ⟨directory, hasDirectory⟩⟩ := h
  have limit : limitOf config.toTable = .ok config.maxRedirects := by
    have found : Ordered.get? maxRedirectsKey config.toTable =
        some (ofValue (.int config.maxRedirects)) := by
      rw [toTable, hasUrl, hasDirectory]
      rfl
    rw [limitOf, found]
    dsimp only
    rw [view_ofValue, integer]
  have time : timeOf config.toTable = .ok config.timeout := by
    have found : Ordered.get? timeoutKey config.toTable =
        config.timeout.map fun timeout => ofValue (.float timeout) := by
      rw [toTable, hasUrl, hasDirectory]
      cases config.timeout <;> rfl
    rw [timeOf, found]
    cases config.timeout with
    | none => rfl
    | some x =>
        show (double (view (ofValue (.float x) : σ))).map some = .ok (some x)
        rw [view_ofValue]
        rfl
  have rest : ofNumbers config.toTable config.maxRedirects config.timeout = config := by
    have encode : (view (ofValue (.bool config.encode) : σ)).isTruthy = config.encode := by
      rw [view_ofValue]
      rfl
    cases config with
    | mk _ _ encode maxRedirects timeout =>
        cases hasUrl
        cases hasDirectory
        exact congrArg (Config.mk _ _ · _ _) encode
  rw [ofTable, limit, time]
  exact congrArg Except.ok rest

/-! ## Files -/

/-- When settings are saved. -/
theorem saveBy_eq_none_iff : config.saveBy library tree path = (later, none) ↔
    ∃ text, library.write? config.toTable = some text ∧
      tree.write path (Utf8.encode text) = .ok later := by
  rw [saveBy]
  cases form : library.write? config.toTable with
  | none => split <;> simp
  | some text =>
      cases written : tree.write path (Utf8.encode text) with
      | ok made => simp [written]
      | error e => cases e <;> simp [written]

/-- Settings that were saved are loaded. -/
theorem loadBy_of_saveBy (saved : config.saveBy library tree path = (later, none))
    (complete : config.IsComplete) (reads : library.ReadsBack config.toTable) :
    loadBy library later path = .ok (some config) := by
  obtain ⟨text, form, written⟩ := saveBy_eq_none_iff.mp saved
  obtain ⟨back, read, same⟩ := reads text form
  have has : HasTable library later path back :=
    ⟨_, _, FileTree.read_of_write written, Utf8.decode_encode text, read⟩
  rw [loadBy_of_hasTable (FileTree.has_of_write written) has, ofTable_congr same,
    ofTable_toTable complete]
  rfl

/-- Saving once more changes nothing. -/
theorem saveBy_of_saveBy (saved : config.saveBy library tree path = (later, none)) :
    config.saveBy library later path = (later, none) := by
  obtain ⟨text, form, written⟩ := saveBy_eq_none_iff.mp saved
  exact saveBy_eq_none_iff.mpr ⟨text, form, FileTree.write_of_write written⟩

/-! ## Precedence -/

/-- A standard value that counts is chosen once and for all. -/
theorem orStandard_orStandard {standard : Text} (counts : standard ≠ [])
    (setting : Option σ) :
    orStandard standard (some (orStandard standard setting)) = orStandard standard setting := by
  have truthy : (view (orStandard standard setting)).isTruthy = true := by
    have standardCounts : (view (ofValue (.str standard) : σ)).isTruthy = true := by
      simpa [Setting.isTruthy, Value.isTruthy] using counts
    cases setting with
    | none => exact standardCounts
    | some value =>
        rw [orStandard]
        split
        · assumption
        · exact standardCounts
  conv_lhs => rw [orStandard, if_pos truthy]

end Config

namespace Command

variable {σ : Type} [Toml.ValueType σ] {library : Toml.Library σ} {tree left : FileTree}
  {client : HttpClient} {environment : Option Text} {argv bare : List Text}
  {arguments : Arguments} {config : Config σ} {settings : Settings}

/-! ## Settings in use -/

/-- The settings that a command line generates a client with; there are none where it does
something else. -/
def settings? (library : Toml.Library σ) (tree : FileTree) (environment : Option Text)
    (argv : List Text) : Option Settings :=
  match parse argv with
  | .error _ => none
  | .ok arguments =>
    match effectiveConfig library tree arguments with
    | .error _ => none
    | .ok config =>
      if arguments.initConfig then none else some (settingsOf config arguments environment)

theorem settings?_of_parse (parsed : parse argv = .ok arguments)
    (generates : arguments.initConfig = false)
    (effective : effectiveConfig library tree arguments = .ok config) :
    settings? library tree environment argv = some (settingsOf config arguments environment) := by
  simp only [settings?, parsed, effective, generates]
  rfl

/-- A command line that generates a client does so with its settings. -/
theorem run_eq_generate (parsed : parse argv = .ok arguments)
    (generates : arguments.initConfig = false)
    (effective : effectiveConfig library tree arguments = .ok config) (client : HttpClient) :
    runBy library tree client environment argv =
      generate tree client arguments.verbose (settingsOf config arguments environment) := by
  simp only [runBy, parsed, perform, effective, generates]
  rfl

/-! ## Settings that are saved -/

theorem isComplete_completed (config : Config σ) (arguments : Arguments)
    (environment : Option Text) : (completed config arguments environment).IsComplete :=
  ⟨⟨_, rfl⟩, ⟨_, rfl⟩⟩

/-- What was saved is decided. -/
theorem resolveUrl_completed (config : Config σ) (arguments : Arguments)
    (environment : Option Text) : (completed config arguments environment).resolveUrl none none =
      config.resolveUrl arguments.overrides.url environment := by
  have counts : Config.standardUrl ≠ [] := by decide
  exact Config.orStandard_orStandard counts _

theorem resolveDirectory_completed (config : Config σ) (arguments : Arguments)
    (environment : Option Text) :
    (completed config arguments environment).resolveDirectory = config.resolveDirectory := by
  have counts : Config.standardDirectory ≠ [] := by decide
  exact Config.orStandard_orStandard counts _

/-- Where nothing else is given, what was saved is used. -/
theorem settingsOf_completed (config : Config σ) (arguments : Arguments)
    (environment : Option Text) :
    settingsOf (completed config arguments environment) {} none =
      settingsOf config arguments environment := by
  simp only [settingsOf, resolveUrl_completed, resolveDirectory_completed]
  rfl

/-- Where nothing else is given, what was saved is saved again. -/
theorem completed_completed (config : Config σ) (arguments : Arguments)
    (environment : Option Text) :
    completed (completed config arguments environment) {} none =
      completed config arguments environment := by
  rw [completed, resolveUrl_completed, resolveDirectory_completed]
  rfl

/-- A command line that saves does nothing else. -/
theorem run_eq_writeConfig (parsed : parse argv = .ok arguments)
    (saves : arguments.initConfig = true)
    (effective : effectiveConfig library tree arguments = .ok config) (client : HttpClient) :
    runBy library tree client environment argv =
      writeConfig library tree (completed config arguments environment) := by
  simp only [runBy, parsed, perform, effective, saves]
  rfl

/-- Writing the configuration file ends well only if the settings are saved. -/
theorem save_of_exit (done : (writeConfig library tree config).exit = .ok 0) :
    config.saveBy library tree Config.fileName =
      ((writeConfig library tree config).tree, none) := by
  rw [writeConfig] at done ⊢
  split
  · assumption
  · rename_i later breakdown saved
    rw [saved] at done
    cases breakdown with
    | file fault => exact absurd (Except.ok.inj done) (by decide)
    | _ => cases done

theorem writeConfig_of_save (saved : config.saveBy library tree Config.fileName = (left, none)) :
    writeConfig library tree config = { exit := .ok 0, tree := left, output := createdLine } := by
  rw [writeConfig, saved]

/-! ## The switch that saves -/

/-- The same arguments with the switch that saves. -/
def Taken.saving (taken : Taken) : Taken :=
  { taken with arguments := { taken.arguments with initConfig := true } }

theorem saving_takeWord (taken : Taken) (t : Text) :
    taken.saving.takeWord t = (taken.takeWord t).saving := by
  obtain ⟨arguments, isUrlOpen, leftOver⟩ := taken
  cases isUrlOpen <;> rfl

theorem saving_takeSwitch (taken : Taken) (s : Switch) :
    taken.saving.takeSwitch s = (taken.takeSwitch s).map Taken.saving := by
  cases s <;> rfl

/-- Where each of two steps in a row keeps the switch, so do both. -/
theorem saving_bind {first : Except Halt Taken} {next : Taken → Except Halt Taken}
    (onward : ∀ taken, next taken.saving = (next taken).map Taken.saving) :
    first.map Taken.saving >>= next = (first >>= next).map Taken.saving := by
  cases first with
  | error halt => rfl
  | ok taken => exact onward taken

theorem saving_foldlM (taken : Taken) (switches : List Switch) :
    switches.foldlM Taken.takeSwitch taken.saving =
      (switches.foldlM Taken.takeSwitch taken).map Taken.saving := by
  induction switches generalizing taken with
  | nil => rfl
  | cons s rest ih =>
      rw [List.foldlM_cons, List.foldlM_cons, saving_takeSwitch]
      exact saving_bind ih

theorem saving_takeValue (taken : Taken) (s : Switch) (value : Text) :
    taken.saving.takeValue s value = (taken.takeValue s value).map Taken.saving := by
  cases s with
  | maxRedirects =>
      simp only [Taken.takeValue]
      cases Config.integerOfText value <;> rfl
  | timeout =>
      simp only [Taken.takeValue]
      cases Numeral.double? value <;> rfl
  | _ => rfl

/-- A switch without a value is taken on its own. -/
theorem take_switch {s : Switch} (bare : s.takesValue = false) (taken : Taken)
    (rest : List Token) :
    take taken (.switch s none :: rest) = taken.takeSwitch s >>= fun next => take next rest := by
  have skip : ¬ s.takesValue = true := by simp [bare]
  cases rest with
  | nil => rw [take, if_neg skip]; rintro _ _ ⟨⟩
  | cons next more => cases next <;> rw [take, if_neg skip] <;> rintro _ _ ⟨⟩

/-- The switch does not change how the other arguments are taken. -/
theorem take_saving (taken : Taken) (tokens : List Token) :
    take taken.saving tokens = (take taken tokens).map Taken.saving := by
  induction taken, tokens using take.induct with
  | case1 taken => rfl
  | case2 taken rest isOpen ih =>
      rw [take, take, if_pos isOpen, ← ih]
      exact if_pos isOpen
  | case3 taken rest isShut ih =>
      rw [take, take, if_neg isShut, ← ih]
      exact if_neg isShut
  | case4 taken t rest isOpen ih =>
      rw [take, take, if_pos isOpen, ← ih, ← saving_takeWord]
      exact if_pos isOpen
  | case5 taken t rest isShut ih =>
      rw [take, take, if_neg isShut, ← ih, saving_takeWord]
      exact if_neg isShut
  | case6 taken t rest plain ih =>
      rw [take, take, saving_takeWord, ih] <;> exact plain
  | case7 taken t rest ih => exact ih
  | case8 taken s value rest => rfl
  | case9 taken s text rest misuse failed =>
      simp only [take, failed]
      rfl
  | case10 taken s text rest switches left cut ih =>
      simp only [take, cut]
      rw [← saving_bind ih, ← saving_foldlM]
      rfl
  | case11 taken s value rest takes ih =>
      rw [take, take, if_pos takes, if_pos takes, saving_takeValue]
      exact saving_bind ih
  | case12 taken s value rest bare =>
      rw [take, take, if_neg bare, if_neg bare]
      rfl
  | case13 taken s takes value rest ih =>
      rw [take, take, if_pos takes, if_pos takes, saving_takeValue]
      exact saving_bind ih
  | case14 taken s rest takes noWord =>
      have missing : ∀ taken : Taken, take taken (.switch s none :: rest) =
          .error (.misuse (.missingValue s)) := by
        intro taken
        rw [take, if_pos takes]
        exact noWord
      rw [missing, missing]
      rfl
  | case15 taken s rest bare ih =>
      have bare : s.takesValue = false := Bool.eq_false_iff.mpr bare
      rw [take_switch bare, take_switch bare, saving_takeSwitch]
      exact saving_bind ih

/-- The switch that saves can be put in front of every command line. -/
theorem parse_cons_initConfig (argv : List Text) :
    parse ("--init-config".toList :: argv) =
      (parse argv).map fun arguments => { arguments with initConfig := true } := by
  have first : tokens ("--init-config".toList :: argv) =
      (tokens argv).map (.switch .initConfig none :: ·) := by
    have separate : ¬ "--init-config".toList = ['-', '-'] := by decide
    have known : token "--init-config".toList = .ok (.switch .initConfig none) := rfl
    rw [tokens, if_neg separate, known]
    cases tokens argv <;> rfl
  cases cut : tokens argv with
  | error misuse =>
      simp only [parse, first, cut]
      rfl
  | ok tokens =>
      have switched : take {} (.switch .initConfig none :: tokens) =
          (take {} tokens).map Taken.saving := (take_switch rfl _ _).trans (take_saving {} tokens)
      rw [cut] at first
      simp only [parse, first, cut, Except.map, switched]
      cases take {} tokens with
      | error halt => rfl
      | ok taken =>
          obtain ⟨arguments, isUrlOpen, leftOver⟩ := taken
          cases leftOver <;> rfl

/-! ## Saving and using -/

/-- What a run that saves leaves behind, whatever the library for configuration texts, as
long as it reads back what it writes for the settings.  The settings that the command line
would have generated a client with without the switch are those that a later run uses to
which nothing is given, not even by the environment; and saving them once more leaves the
files as they are. -/
theorem saved_settings_are_used (library : Toml.Library σ)
    (plain : parse bare = .ok arguments) (generates : arguments.initConfig = false)
    (saves : parse argv = .ok { arguments with initConfig := true })
    (effective : effectiveConfig library tree arguments = .ok config)
    (reads : library.ReadsBack (completed config arguments environment).toTable)
    (done : (runBy library tree client environment argv).exit = .ok 0) :
    let left := (runBy library tree client environment argv).tree
    (∃ settings, settings? library tree environment bare = some settings ∧
        settings? library left none [] = some settings ∧
        ∀ client, runBy library tree client environment bare =
            generate tree client arguments.verbose settings ∧
          runBy library left client none [] = generate left client false settings) ∧
      ∀ client, (runBy library left client none ["--init-config".toList]).exit = .ok 0 ∧
        (runBy library left client none ["--init-config".toList]).tree = left := by
  intro left
  -- What is left has the decided settings in its file.
  have written : runBy library tree client environment argv =
      writeConfig library tree (completed config arguments environment) :=
    run_eq_writeConfig saves rfl effective client
  have saved : (completed config arguments environment).saveBy library tree Config.fileName =
      (left, none) := by
    rw [written] at done
    rw [save_of_exit done, ← written]
  have loaded : ∀ arguments' : Arguments, arguments'.overrides = {} →
      effectiveConfig library left arguments' = .ok (completed config arguments environment) := by
    intro arguments' nothing
    rw [effectiveConfig, nothing,
      Config.loadBy_of_saveBy saved (isComplete_completed config arguments environment) reads]
    rfl
  have used := settingsOf_completed config arguments environment
  have nothing : parse [] = .ok {} := rfl
  have switch : parse ["--init-config".toList] = .ok { initConfig := true } := rfl
  refine ⟨⟨settingsOf config arguments environment, ?_, ?_, fun client => ⟨?_, ?_⟩⟩,
    fun client => ?_⟩
  · exact settings?_of_parse plain generates effective
  · rw [settings?_of_parse nothing rfl (loaded _ rfl), used]
  · exact run_eq_generate plain generates effective client
  · rw [run_eq_generate nothing rfl (loaded _ rfl), used]
  · have again : runBy library left client none ["--init-config".toList] =
        writeConfig library left (completed (completed config arguments environment) {} none) :=
      run_eq_writeConfig switch rfl (loaded _ rfl) client
    rw [completed_completed, writeConfig_of_save (Config.saveBy_of_saveBy saved)] at again
    rw [again]
    exact ⟨rfl, rfl⟩

/-- A tree with a configuration file that gives a URL and allows no redirects. -/
def configuredTree : FileTree where
  entries := [(["openapi.toml".toList],
    .file (Utf8.encode "url = \"http://old.test/\"\nmax_redirects = 0\n"))]

/-- A client that answers every request by an empty text. -/
def silentClient : HttpClient := fun _ u =>
  ⟨some u, .response { status := 200, url := u, location := none, body := [] }⟩

/-- Arguments that give the directory and the time limit. -/
def mixedArguments : Arguments where
  overrides := { directory := some "out", timeout := some (.ofRatio false 3 2) }

/-- What they and the file of `configuredTree` come to. -/
def mixedConfig : Config where
  url := some (.str "http://old.test/")
  directory := some (.str "out")
  maxRedirects := 0
  timeout := some (.ofRatio false 3 2)

/-- The file that is saved, with the URL of the environment. -/
def mixedText : Text :=
  "url = \"spec.json\"\ndirname = \"out\"\n" ++
    "encode_path_params = false\nmax_redirects = 0\ntimeout = 1.5\n"

/-- With the URL of the environment, the directory and the time limit of the command line
and the redirects of the file. -/
theorem saved_settings_are_used_mixed :
    let bare := ["--dirname".toList, "out".toList, "--timeout".toList, "1.5".toList]
    let environment := some "spec.json".toList
    let left := (run configuredTree silentClient environment ("--init-config".toList :: bare)).tree
    let settings : Settings :=
      { url := .plain (.str "spec.json")
        directory := .plain (.str "out")
        encode := false
        maxRedirects := 0
        timeout := some (.ofRatio false 3 2) }
    settings? Toml.ownLibrary configuredTree environment bare = some settings ∧
      settings? Toml.ownLibrary left none [] = some settings := by
  intro bare environment left settings
  have plain : parse bare = .ok mixedArguments := by decide +kernel
  have saves : parse ("--init-config".toList :: bare) =
      .ok { mixedArguments with initConfig := true } := by
    rw [parse_cons_initConfig, plain]
    rfl
  have effective : effectiveConfig Toml.ownLibrary configuredTree mixedArguments =
      .ok mixedConfig := by
    decide +kernel
  have reads :
      Toml.ownLibrary.ReadsBack (completed mixedConfig mixedArguments environment).toTable :=
    Toml.Library.ReadsBack.of_read (show _ = some mixedText by decide +kernel) (by decide +kernel)
  have done : (run configuredTree silentClient environment
      ("--init-config".toList :: bare)).exit = .ok 0 := by
    decide +kernel
  have before : settings? Toml.ownLibrary configuredTree environment bare = some settings :=
    settings?_of_parse plain rfl effective
  obtain ⟨⟨used, sameBefore, after, -⟩, -⟩ :=
    saved_settings_are_used Toml.ownLibrary plain rfl saves effective reads done
  rw [before] at sameBefore
  cases sameBefore
  exact ⟨before, after⟩

end Command

end ClientGen
