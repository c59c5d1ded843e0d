/-
# How loading a configuration can fail

A configuration file of no use is documented to end in a failure of its own, and settings
that are loaded are declared with types: the URL and the directory are texts, the limit is
an integer and the time a floating point number.  What a library makes of the text of the
file is left open here; it gives a table with values of any kind, dates and times among
them, or finds that the text is none.

Whatever it gives, a failure that comes of loading is a failure of the configuration and
names its file.  But octets that are no text, an infinite number of redirects and a time
beyond the floating point numbers end in errors that nothing foresees, and a URL or a
directory that is no text is kept as it is.  These are the only ways past what is
documented.
-/
import ClientGen.Config
import ClientGen.Proofs.Octets
import ClientGen.Proofs.Ordered

namespace ClientGen

/-- What can be read at a path that leads to something: the octets of a file. -/
theorem FileTree.read_of_has {tree : FileTree} {path : Text} (h : tree.has path = true) :
    (∃ octets, tree.read path = .ok octets) ∨
      tree.read path = .error (.fault ⟨.isDirectory, path⟩) := by
  rw [has, find?] at h
  rw [read]
  cases located : tree.locate true path with
  | error e =>
      rw [located] at h
      cases h
  | ok found =>
      rw [located] at h
      cases found with
      | vacant => cases h
      | entry place entry =>
          cases entry with
          | file octets => exact Or.inl ⟨octets, rfl⟩
          | directory | link => exact Or.inr rfl

namespace Config

/-! ## Values of any kind -/

variable {setting : Setting} {message : Text}

/-- A text that is no integer is of no use. -/
theorem integerOfText_ne_outOfRange (t : Text) :
    integerOfText t ≠ .error (.outOfRange message) := by
  rw [integerOfText]
  split
  · rintro ⟨⟩
  · split <;> rintro ⟨⟩

/-- Of the values only an infinity is too large for an integer. -/
theorem integer_outOfRange_iff : integer setting = .error (.outOfRange message) ↔
    (∃ negative, setting = .plain (.float (.infinity negative))) ∧
      message = "cannot convert float infinity to integer" := by
  cases setting with
  | other => simp [integer]
  | plain v =>
      cases v with
      | null | bool | int | arr | obj => simp [integer]
      | str t => simp [integer, integerOfText_ne_outOfRange]
      | float x => cases x <;> simp [integer, eq_comm]

/-- Of the values only an integer is too large for a floating point number. -/
theorem double_outOfRange_iff : double setting = .error (.outOfRange message) ↔
    (∃ n, setting = .plain (.int n) ∧ Double.ofInt? n = none) ∧
      message = "int too large to convert to float" := by
  cases setting with
  | other => simp [double]
  | plain v =>
      cases v with
      | null | bool | float | arr | obj => simp [double]
      | str t =>
          simp only [double]
          split <;> simp
      | int n =>
          simp only [double]
          split <;> rename_i converted <;> simp [converted, eq_comm]

/-! ## Tables -/

open Toml.ValueType

variable {σ : Type} [Toml.ValueType σ] {table : List (Text × σ)} {flaw : Flaw}

/-- The URL, where there is one, and the directory are texts. -/
structure WellTyped (config : Config σ) : Prop where
  url : ∀ value, config.url = some value → ∃ t, view value = .plain (.str t)
  directory : ∃ value, config.directory = some value ∧ ∃ t, view value = .plain (.str t)

/-- The limit is out of range exactly if it is an infinity. -/
theorem limitOf_outOfRange_iff : limitOf table = .error (.outOfRange message) ↔
    (∃ value negative, Ordered.get? maxRedirectsKey table = some value ∧
        view value = .plain (.float (.infinity negative))) ∧
      message = "cannot convert float infinity to integer" := by
  rw [limitOf]
  cases Ordered.get? maxRedirectsKey table with
  | none => simp
  | some value => simp [integer_outOfRange_iff]

/-- The time is out of range exactly if it is an integer beyond the floating point
numbers. -/
theorem timeOf_outOfRange_iff : timeOf table = .error (.outOfRange message) ↔
    (∃ value n, Ordered.get? timeoutKey table = some value ∧ view value = .plain (.int n) ∧
        Double.ofInt? n = none) ∧
      message = "int too large to convert to float" := by
  rw [timeOf]
  cases Ordered.get? timeoutKey table with
  | none => simp
  | some value =>
      have mapped : (double (view value)).map some = .error (.outOfRange message) ↔
          double (view value) = .error (.outOfRange message) := by
        cases double (view value) <;> simp [Except.map]
      simp [mapped, double_outOfRange_iff]

/-- The settings of a table are out of range where one of the numbers is, the limit first. -/
theorem ofTable_error_iff : ofTable table = .error flaw ↔
    limitOf table = .error flaw ∨
      ∃ limit, limitOf table = .ok limit ∧ timeOf table = .error flaw := by
  rw [ofTable]
  cases limitOf table with
  | error flaw => simp [bind, Except.bind]
  | ok limit => cases timeOf table <;> simp [bind, Except.bind]

/-- When a table has settings. -/
theorem ofTable_eq_ok_iff {config : Config σ} : ofTable table = .ok config ↔
    ∃ limit time, limitOf table = .ok limit ∧ timeOf table = .ok time ∧
      config = ofNumbers table limit time := by
  rw [ofTable]
  cases limitOf table with
  | error flaw => simp [bind, Except.bind]
  | ok limit => cases timeOf table <;> simp [bind, Except.bind, eq_comm]

/-! ## Files -/

variable {library : Toml.Library σ} {tree : FileTree} {path : Text}

/-- The file at a path is a text of which the library makes a table. -/
def HasTable (library : Toml.Library σ) (tree : FileTree) (path : Text)
    (table : List (Text × σ)) : Prop :=
  ∃ octets text, tree.read path = .ok octets ∧ Utf8.decode octets = .ok text ∧
    library.read (Text.unifyNewlines text) = .ok table

theorem loadBy_of_undecodable (there : tree.has path = true) {octets : List UInt8}
    {flaw : Utf8.Flaw} (read : tree.read path = .ok octets)
    (undecoded : Utf8.decode octets = .error flaw) :
    loadBy library tree path = .error (.breakdown (.undecodable flaw)) := by
  have here : ¬ (! tree.has path) = true := by rw [there]; decide
  rw [loadBy, if_neg here, read]
  simp only [undecoded]

theorem loadBy_of_hasTable (there : tree.has path = true)
    (has : HasTable library tree path table) :
    loadBy library tree path = conclude path (ofTable table) := by
  obtain ⟨octets, text, read, decoded, made⟩ := has
  have here : ¬ (! tree.has path) = true := by rw [there]; decide
  rw [loadBy, if_neg here, read]
  simp only [decoded, made]

/-- What loading a file comes to: a failure that names it, octets that are no text, a number
out of range, or settings. -/
theorem loadBy_cases (library : Toml.Library σ) (there : tree.has path = true) :
    (∃ detail, loadBy library tree path = .error (.failure (.unreadableConfig path detail)) ∨
        loadBy library tree path = .error (.failure (.badConfigValue path detail))) ∨
      (∃ octets flaw, tree.read path = .ok octets ∧ Utf8.decode octets = .error flaw ∧
        loadBy library tree path = .error (.breakdown (.undecodable flaw))) ∨
      (∃ table message, HasTable library tree path table ∧
        ofTable table = .error (.outOfRange message) ∧
        loadBy library tree path = .error (.breakdown (.outOfRange message))) ∨
      ∃ table limit time, HasTable library tree path table ∧ limitOf table = .ok limit ∧
        timeOf table = .ok time ∧
        loadBy library tree path = .ok (some (ofNumbers table limit time)) := by
  have here : ¬ (! tree.has path) = true := by rw [there]; decide
  rcases FileTree.read_of_has there with ⟨octets, read⟩ | read
  · cases decoded : Utf8.decode octets with
    | error flaw =>
        exact Or.inr (Or.inl ⟨_, _, read, decoded, loadBy_of_undecodable there read decoded⟩)
    | ok text =>
        cases made : library.read (Text.unifyNewlines text) with
        | error detail =>
            refine Or.inl ⟨detail, Or.inl ?_⟩
            rw [loadBy, if_neg here, read]
            simp only [decoded, made]
        | ok table =>
            have has : HasTable library tree path table := ⟨octets, text, read, decoded, made⟩
            have result := loadBy_of_hasTable there has
            cases settings : ofTable table with
            | error flaw =>
                rw [settings] at result
                cases flaw with
                | useless message => exact Or.inl ⟨message, Or.inr result⟩
                | outOfRange message =>
                    exact Or.inr (Or.inr (Or.inl ⟨table, message, has, settings, result⟩))
            | ok loaded =>
                rw [settings] at result
                obtain ⟨limit, time, limited, timed, rfl⟩ := ofTable_eq_ok_iff.mp settings
                exact Or.inr (Or.inr (Or.inr ⟨table, limit, time, has, limited, timed, result⟩))
  · refine Or.inl ⟨FileFault.message ⟨.isDirectory, path⟩, Or.inl ?_⟩
    rw [loadBy, if_neg here, read]

/-! ## Ways past the documented failure -/

/-- Loading keeps to what it documents: it ends in a failure of the configuration or gives
settings of the declared types. -/
def AsDocumented (result : Except GenError (Option (Config σ))) : Prop :=
  (∃ message, result = .error (.failure (.config message))) ∨
    ∃ loaded, result = .ok (some loaded) ∧ loaded.WellTyped

/-- The errors that nothing foresees, each with the way that loading comes to it. -/
inductive Escapes (library : Toml.Library σ) (tree : FileTree) (path : Text) : Breakdown → Prop
  /-- The octets of the file are no text. -/
  | noText {octets : List UInt8} {flaw : Utf8.Flaw} (read : tree.read path = .ok octets)
      (undecoded : Utf8.decode octets = .error flaw) :
      Escapes library tree path (.undecodable flaw)
  /-- The number of redirects is infinite. -/
  | infiniteLimit {table : List (Text × σ)} {value : σ} {negative : Bool}
      (has : HasTable library tree path table)
      (given : Ordered.get? maxRedirectsKey table = some value)
      (infinite : view value = .plain (.float (.infinity negative))) :
      Escapes library tree path (.outOfRange "cannot convert float infinity to integer")
  /-- The time is an integer beyond the floating point numbers. -/
  | hugeTime {table : List (Text × σ)} {value : σ} {limit n : Int}
      (has : HasTable library tree path table) (limited : limitOf table = .ok limit)
      (given : Ordered.get? timeoutKey table = some value)
      (isInteger : view value = .plain (.int n)) (huge : Double.ofInt? n = none) :
      Escapes library tree path (.outOfRange "int too large to convert to float")

/-- The numbers of the file are converted, but a setting that is to be a text is none. -/
def Mistyped (library : Toml.Library σ) (tree : FileTree) (path : Text) : Prop :=
  ∃ table limit time, HasTable library tree path table ∧ limitOf table = .ok limit ∧
    timeOf table = .ok time ∧ ∃ key ∈ [urlKey, directoryKey], ∃ value,
      Ordered.get? key table = some value ∧ ∀ t, view value ≠ .plain (.str t)

/-- Loading breaks down exactly as the relation says. -/
theorem loadBy_breakdown_iff (there : tree.has path = true) {b : Breakdown} :
    loadBy library tree path = .error (.breakdown b) ↔ Escapes library tree path b := by
  constructor
  · intro failed
    rcases loadBy_cases library there with ⟨_, result | result⟩ |
      ⟨octets, flaw, read, undecoded, result⟩ | ⟨table, message, has, settings, result⟩ |
      ⟨_, _, _, _, _, _, result⟩ <;> cases result.symm.trans failed
    · exact .noText read undecoded
    · rcases ofTable_error_iff.mp settings with limit | ⟨limit, limited, time⟩
      · obtain ⟨⟨value, negative, given, infinite⟩, rfl⟩ := limitOf_outOfRange_iff.mp limit
        exact .infiniteLimit has given infinite
      · obtain ⟨⟨value, n, given, isInteger, huge⟩, rfl⟩ := timeOf_outOfRange_iff.mp time
        exact .hugeTime has limited given isInteger huge
  · intro escapes
    cases escapes with
    | noText read undecoded => exact loadBy_of_undecodable there read undecoded
    | infiniteLimit has given infinite =>
        have broke := ofTable_error_iff.mpr
          (Or.inl (limitOf_outOfRange_iff.mpr ⟨⟨_, _, given, infinite⟩, rfl⟩))
        rw [loadBy_of_hasTable there has, broke]
        rfl
    | hugeTime has limited given isInteger huge =>
        have broke := ofTable_error_iff.mpr (Or.inr ⟨_, limited,
          timeOf_outOfRange_iff.mpr ⟨⟨_, _, given, isInteger, huge⟩, rfl⟩⟩)
        rw [loadBy_of_hasTable there has, broke]
        rfl

/-- A failure that comes of loading names the file. -/
theorem loadBy_failure (there : tree.has path = true) {f : Failure}
    (failed : loadBy library tree path = .error (.failure f)) :
    ∃ detail, f = .unreadableConfig path detail ∨ f = .badConfigValue path detail := by
  rcases loadBy_cases library there with ⟨detail, result | result⟩ | ⟨_, _, _, _, result⟩ |
    ⟨_, _, _, _, result⟩ | ⟨_, _, _, _, _, _, result⟩ <;> cases result.symm.trans failed
  · exact ⟨detail, Or.inl rfl⟩
  · exact ⟨detail, Or.inr rfl⟩

/-- Where the file is loaded, its table has settings. -/
theorem loadBy_ok (there : tree.has path = true) {loaded? : Option (Config σ)}
    (done : loadBy library tree path = .ok loaded?) :
    ∃ table limit time, HasTable library tree path table ∧ limitOf table = .ok limit ∧
      timeOf table = .ok time ∧ loaded? = some (ofNumbers table limit time) := by
  rcases loadBy_cases library there with ⟨_, result | result⟩ | ⟨_, _, _, _, result⟩ |
    ⟨_, _, _, _, result⟩ | ⟨table, limit, time, has, limited, timed, result⟩ <;>
    cases result.symm.trans done
  exact ⟨table, limit, time, has, limited, timed, rfl⟩

/-- The settings of a table are of the declared types exactly if the URL and the directory
are texts where they are given. -/
theorem wellTyped_ofNumbers_iff {limit : Int} {time : Option Double} :
    (ofNumbers table limit time).WellTyped ↔
      ∀ key ∈ [urlKey, directoryKey], ∀ value, Ordered.get? key table = some value →
        ∃ t, view value = .plain (.str t) := by
  have directory : (∃ value, (ofNumbers table limit time).directory = some value ∧
        ∃ t, view value = .plain (.str t)) ↔
      ∀ value, Ordered.get? directoryKey table = some value →
        ∃ t, view value = .plain (.str t) := by
    simp only [ofNumbers, Option.some.injEq]
    cases Ordered.get? directoryKey table <;> simp
  rw [List.forall_mem_cons, List.forall_mem_singleton, ← directory]
  constructor
  · intro typed
    exact ⟨typed.url, typed.directory⟩
  · rintro ⟨url, directory⟩
    exact ⟨url, directory⟩

/-- A setting is mistyped exactly if settings are given that are not of the declared types. -/
theorem mistyped_iff (there : tree.has path = true) : Mistyped library tree path ↔
    ∃ loaded, loadBy library tree path = .ok (some loaded) ∧ ¬ loaded.WellTyped := by
  constructor
  · rintro ⟨table, limit, time, has, limited, timed, key, isText, value, given, noText⟩
    have settings := ofTable_eq_ok_iff.mpr ⟨limit, time, limited, timed, rfl⟩
    refine ⟨ofNumbers table limit time, ?_, fun typed => ?_⟩
    · rw [loadBy_of_hasTable there has, settings]
      rfl
    · obtain ⟨t, same⟩ := wellTyped_ofNumbers_iff.mp typed key isText value given
      exact noText t same
  · rintro ⟨loaded, done, mistyped⟩
    obtain ⟨table, limit, time, has, limited, timed, same⟩ := loadBy_ok there done
    cases same
    refine ⟨table, limit, time, has, limited, timed, ?_⟩
    by_contra texts
    refine mistyped (wellTyped_ofNumbers_iff.mpr fun key isText value given => ?_)
    by_contra noText
    exact texts ⟨key, isText, value, given, fun t same => noText ⟨t, same⟩⟩

/-- How loading the file that is selected can fail, with any library; the program's own
loading is loading with the library in use.  Each failure is one of the configuration and
names the file.  A breakdown comes of it exactly in the ways past it, with the error that
the way names.  So loading ends in a failure of the configuration or gives settings of the
declared types exactly if none of the ways is taken and the settings that are to be texts
are. -/
theorem loading_documented_iff (tree : FileTree) (given : Text) (directory : Option Text)
    (there : tree.has (findPath tree given directory) = true) :
    let path := findPath tree given directory
    load tree path = loadBy Toml.ownLibrary tree path ∧
      ∀ {σ : Type} [Toml.ValueType σ] (library : Toml.Library σ),
        let result := loadBy library tree path
        (∀ f, result = .error (.failure f) →
            ∃ detail, f = .unreadableConfig path detail ∨ f = .badConfigValue path detail) ∧
          (∀ b, result = .error (.breakdown b) ↔ Escapes library tree path b) ∧
          (AsDocumented result ↔
            (∀ b, ¬ Escapes library tree path b) ∧ ¬ Mistyped library tree path) := by
  intro path
  refine ⟨rfl, fun library => ?_⟩
  intro result
  have failures : ∀ f, result = .error (.failure f) →
      ∃ detail, f = .unreadableConfig path detail ∨ f = .badConfigValue path detail :=
    fun f => loadBy_failure there
  have breakdowns : ∀ b, result = .error (.breakdown b) ↔ Escapes library tree path b :=
    fun b => loadBy_breakdown_iff there
  refine ⟨failures, breakdowns, ?_⟩
  rw [mistyped_iff there]
  simp only [← breakdowns]
  constructor
  · rintro (⟨message, failed⟩ | ⟨loaded, done, typed⟩)
    · refine ⟨fun b broke => ?_, ?_⟩
      · cases failed.symm.trans broke
      · rintro ⟨loaded, done, -⟩
        cases failed.symm.trans done
    · refine ⟨fun b broke => ?_, ?_⟩
      · cases done.symm.trans broke
      · rintro ⟨other, done', mistyped⟩
        cases done.symm.trans done'
        exact mistyped typed
  · rintro ⟨foreseen, typed⟩
    cases settled : result with
    | error e =>
        cases e with
        | breakdown b => exact absurd settled (foreseen b)
        | failure f =>
            obtain ⟨detail, rfl | rfl⟩ := failures f settled
            · exact Or.inl ⟨_, rfl⟩
            · exact Or.inl ⟨_, rfl⟩
    | ok loaded? =>
        obtain ⟨table, limit, time, -, -, -, rfl⟩ := loadBy_ok there settled
        refine Or.inr ⟨_, rfl, ?_⟩
        by_contra mistyped
        exact typed ⟨_, settled, mistyped⟩

/-- A tree with a configuration file for an infinite number of redirects. -/
def boundlessTree : FileTree where
  entries := [(["openapi.toml".toList], .file (Utf8.encode "max_redirects = inf\n"))]

/-- A library that reads every text as an empty table. -/
def emptyLibrary : Toml.Library Setting where
  read _ := .ok []
  write? _ := none

/-- A library that reads every text as a table with a date for the URL. -/
def datedLibrary : Toml.Library Setting where
  read _ := .ok [(urlKey, .other "datetime.date" "2026-01-31" true)]
  write? _ := none

/-- The library in use finds an infinity in the file and loading breaks down; one that finds
an empty table has it end as documented, and one that finds a date does not. -/
theorem loading_documented_iff_boundless :
    ¬ AsDocumented (load boundlessTree fileName) ∧
      AsDocumented (loadBy emptyLibrary boundlessTree fileName) ∧
      ¬ AsDocumented (loadBy datedLibrary boundlessTree fileName) := by
  obtain ⟨-, documented⟩ :=
    loading_documented_iff boundlessTree fileName none (by decide +kernel)
  have read : boundlessTree.read fileName = .ok (Utf8.encode "max_redirects = inf\n") := by
    decide +kernel
  -- Each library has its own table of the one text of the file.
  have hasTable : ∀ {σ : Type} {library : Toml.Library σ} {table},
      library.read "max_redirects = inf\n".toList = .ok table →
        HasTable library boundlessTree fileName table := fun made =>
    ⟨_, _, read, Utf8.decode_encode _, made⟩
  obtain ⟨-, -, own⟩ := documented Toml.ownLibrary
  obtain ⟨-, -, empty⟩ := documented emptyLibrary
  obtain ⟨-, -, dated⟩ := documented datedLibrary
  have infinite : Toml.ownLibrary.read "max_redirects = inf\n" =
      .ok [(maxRedirectsKey, .float (.infinity false))] := by decide +kernel
  refine ⟨fun asDocumented => ?_, empty.mpr ⟨fun b escapes => ?_, ?_⟩, fun asDocumented => ?_⟩
  · exact (own.mp asDocumented).1 _ (.infiniteLimit (hasTable infinite) rfl rfl)
  · cases escapes with
    | noText read' undecoded =>
        cases read.symm.trans read'
        cases (Utf8.decode_encode _).symm.trans undecoded
    | infiniteLimit has given =>
        obtain ⟨_, _, _, _, made⟩ := has
        cases made
        cases given
    | hugeTime has _ given =>
        obtain ⟨_, _, _, _, made⟩ := has
        cases made
        cases given
  · rintro ⟨_, _, _, ⟨_, _, _, _, made⟩, _, _, _, _, _, given, _⟩
    cases made
    cases given
  · refine (dated.mp asDocumented).2 ⟨_, _, _, hasTable rfl, rfl, rfl, urlKey, ?_, _, rfl, ?_⟩
    · exact List.mem_cons_self
    · rintro t ⟨⟩

/-- It is not so that loading a file always ends as documented: a number of redirects that
is infinite is not foreseen. -/
theorem some_loading_escapes :
    ¬ ∀ (tree : FileTree) (given : Text) (directory : Option Text),
      let path := findPath tree given directory
      tree.has path = true → AsDocumented (load tree path) := by
  intro always
  have broke : load boundlessTree fileName =
      .error (.breakdown (.outOfRange "cannot convert float infinity to integer")) := by
    decide +kernel
  have result := always boundlessTree fileName none (by decide +kernel)
  dsimp only [findPath] at result
  rw [broke] at result
  rcases result with ⟨message, failed⟩ | ⟨loaded, done, -⟩
  · cases failed
  · cases done

end Config

end ClientGen
