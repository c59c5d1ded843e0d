/-
# Exit codes and the file tree

What the exit code of a run says about the file tree it leaves.  Reading the configuration
and fetching the document change nothing, and each has exit codes of its own, so a code of
theirs means that nothing has changed.  Only the writer changes the tree; its failures have
one code, and what it leaves then is a beginning of the files.

Two things are assumed of what surrounds a run: the tree has no links, and the HTTP client
does not break down with a fault of the file system, which would end the program with the
code of such faults.
-/
import ClientGen.Command.Run
import ClientGen.Http.Client
import ClientGen.Proofs.ConfigErrors
import ClientGen.Proofs.Package
import ClientGen.Proofs.Writing

namespace ClientGen

/-! ## The codes of errors -/

/-- An error ends the program with one of the given exit codes, or as a breakdown that has
no exit code. -/
def GenError.Gives (codes : List Int) : GenError → Prop
  | .failure f => f.exitCode ∈ codes
  | .breakdown (.file _) => False
  | .breakdown _ => True

/-- An exit code is one of those that the error gives. -/
theorem GenError.Gives.mem {codes : List Int} {e : GenError} (h : e.Gives codes) {code : Int}
    (ends : (Command.ending e).1 = .ok code) : code ∈ codes := by
  cases e with
  | failure f =>
      obtain rfl := Except.ok.inj ends
      exact h
  | breakdown b =>
      cases b with
      | file fault => exact h.elim
      | _ => cases ends

theorem GenError.Gives.mono {codes more : List Int} {e : GenError} (h : e.Gives codes)
    (among : codes ⊆ more) : e.Gives more := by
  cases e with
  | failure f => exact among h
  | breakdown b =>
      cases b with
      | file fault => exact h
      | _ => trivial

/-- Errors of parsing a document. -/
theorem Document.gives_parse {content source : Text} {e : GenError}
    (failed : Document.parse content source = .error e) : e.Gives [7] := by
  rw [Document.parse] at failed
  split at failed <;> cases failed
  · exact List.mem_singleton_self 7
  · trivial
  · exact List.mem_singleton_self 7

/-- Errors of loading a configuration, with any library. -/
theorem Config.gives_loadBy {σ : Type} [Toml.ValueType σ] {library : Toml.Library σ}
    {tree : FileTree} {path : Text} {e : GenError}
    (failed : Config.loadBy library tree path = .error e) : e.Gives [2] := by
  cases there : tree.has path with
  | false =>
      rw [Config.loadBy, there] at failed
      cases failed
  | true =>
      rcases Config.loadBy_cases library there with ⟨_, result | result⟩ |
        ⟨_, _, _, _, result⟩ | ⟨_, _, _, _, result⟩ | ⟨_, _, _, _, _, _, result⟩ <;>
        cases result.symm.trans failed
      · exact List.mem_singleton_self 2
      · exact List.mem_singleton_self 2
      · trivial
      · trivial

namespace Fetch

/-- The client never breaks down with a fault of the file system. -/
def Faultless (client : HttpClient) : Prop :=
  ∀ n url fault, (client n url).outcome ≠ .broke (.file fault)

/-- Errors of a final outcome. -/
theorem gives_decide {url : Text} {outcome : Outcome}
    (faultless : ∀ fault, outcome ≠ .broke (.file fault)) {e : GenError}
    (failed : decide url outcome = .error e) : e.Gives [5, 6, 7] := by
  cases outcome with
  | failed reason =>
      cases failed
      exact List.mem_of_elem_eq_true rfl
  | broke b =>
      cases failed
      cases b with
      | file fault => exact faultless fault rfl
      | _ => trivial
  | response r =>
      rw [decide, final] at failed
      split at failed
      · cases failed
        exact List.mem_cons_self
      · exact (Document.gives_parse failed).mono (by simp)

/-- Errors of following redirects. -/
theorem gives_follow {client : HttpClient} (faultless : Faultless client) {limit : Int}
    {left n : Nat} {url : Text} {e : GenError}
    (failed : (follow client limit left n url).result = .error e) : e.Gives [5, 6, 7] := by
  induction left generalizing n url with
  | zero =>
      rw [follow] at failed
      dsimp only at failed
      split at failed
      · exact gives_decide (faultless n url) failed
      · cases failed
        exact List.mem_of_elem_eq_true rfl
  | succ left ih =>
      rw [follow] at failed
      dsimp only at failed
      split at failed
      · exact gives_decide (faultless n url) failed
      · split at failed
        · cases failed
          trivial
        · exact ih failed

/-- Errors of fetching a document. -/
theorem gives_document {tree : FileTree} {client : HttpClient} (faultless : Faultless client)
    {limit : Int} {url : Text} {e : GenError}
    (failed : (document tree client limit url).result = .error e) : e.Gives [5, 6, 7] := by
  rw [document] at failed
  split at failed
  · dsimp only at failed
    rw [fromFile] at failed
    split at failed
    · cases failed
      exact List.mem_of_elem_eq_true rfl
    · cases failed
      trivial
    · split at failed
      · cases failed
        trivial
      · exact (Document.gives_parse failed).mono (by simp)
  · exact gives_follow faultless failed

/-- Looking at the place of a redirect is no matter of the file system. -/
theorem redirectFault?_ne_broke {request : Url} {location : Text} {outcome : Outcome}
    (found : Http.redirectFault? request location = some outcome) (fault : FileFault) :
    outcome ≠ .broke (.file fault) := by
  rw [Http.redirectFault?] at found
  split at found
  · cases found
    nofun
  extract_lets url at found
  split at found
  · cases found
    nofun
  split at found
  · cases found
  split at found
  · cases found
    nofun
  split at found
  · cases found
    nofun
  · cases found

/-- A client over a transport that never breaks down so does not either. -/
theorem faultless_client {transport : Http.Transport}
    (faultless : ∀ n url fault, transport n url ≠ .broke (.file fault)) :
    Faultless (Http.client transport) := by
  intro n t fault
  rw [Http.client]
  cases Http.target t with
  | error e => nofun
  | ok url =>
      dsimp only
      cases reply : transport n url with
      | failed reason => nofun
      | broke b =>
          rintro ⟨⟩
          exact faultless n url fault reply
      | message status headers body =>
          rw [Http.outcome]
          split
          · rename_i found
            split at found
            · obtain ⟨location, -, found⟩ := Option.bind_eq_some_iff.mp found
              exact redirectFault?_ne_broke found fault
            · cases found
          · nofun

/-- Replies in a fixed order of which none is such a breakdown make such a client. -/
theorem faultless_scripted {replies : List Http.Reply}
    (faultless : ∀ fault, Http.Reply.broke (.file fault) ∉ replies) :
    Faultless (Http.client (Http.scripted replies)) := by
  apply faultless_client
  intro n url fault broke
  rw [Http.scripted] at broke
  cases found : replies[n]? with
  | some reply =>
      rw [found] at broke
      exact faultless fault (broke ▸ List.mem_of_getElem? found)
  | none =>
      rw [found] at broke
      dsimp only at broke
      cases replies with
      | nil => cases broke
      | cons first rest =>
          rw [List.getLastD_cons] at broke
          exact faultless fault (broke ▸ List.getLastD_mem_cons)

end Fetch

/-! ## What a generation leaves -/

namespace Output

open FileTree

/-- Errors of writing. -/
theorem gives_errorOf {failure : FileFault → Failure}
    (write : ∀ fault, (failure fault).exitCode = 8) (e : FileError) :
    (errorOf failure e).Gives [8] := by
  cases e with
  | fault fault => exact List.mem_singleton.mpr (write fault)
  | nullCharacter => trivial

/-- Without links, writing the files of a project fills the directory with all of them, or
it fails after it has filled it with a proper beginning of them. -/
theorem write_cases {tree : FileTree} (free : tree.LinkFree) {project : Code.Project}
    (some : project.files ≠ []) (flat : ∀ file ∈ project.files, '/' ∉ file.name)
    (distinct : (project.files.map (·.name)).Nodup) (target : Text) (plan : Plan) :
    let written := Output.write tree project target plan
    ((∃ paths, written.result = .ok paths) ∧
        Filled tree written.tree target project.files) ∨
      (∃ e, written.result = .error e ∧ e.Gives [8]) ∧
        ∃ k < project.files.length, Filled tree written.tree target (project.files.take k) := by
  have nothing : ∀ {later : FileTree}, AddsDirectories tree later →
      Filled tree later target (project.files.take 0) := by
    intro later added
    exact ⟨fun file among => absurd among List.not_mem_nil, fun path _ => added.stays path⟩
  rw [Output.write]
  cases result : tree.makeDirectories target with
  | mk made e =>
      have added := addsDirectories_of_makeDirectories result
      cases e with
      | some e =>
          refine Or.inr ⟨⟨_, rfl, gives_errorOf (fun _ => rfl) e⟩, 0, ?_, nothing added⟩
          exact List.length_pos_iff.mpr some
      | none =>
          have targetSome : target ≠ [] := by
            rintro rfl
            exact makeDirectories_nil tree (congrArg Prod.snd result)
          have free := added.linkFree free
          rcases writeFiles_cases target (counts plan) made project.files with
            ⟨written, files, writes, all⟩ |
              ⟨written, middle, file, rest, e, files, writes, more, failed⟩
          · refine Or.inl ⟨⟨_, all⟩, ?_⟩
            rw [files, List.map_map] at distinct
            have filled := writes.filled free targetSome
              (fun entry among => flat _ (files ▸ List.mem_map_of_mem among)) distinct
            rw [← files] at filled
            exact filled.mono added (.refl _)
          · refine Or.inr ⟨⟨_, failed, gives_errorOf (fun _ => rfl) e⟩, written.length, ?_, ?_⟩
            · simp [files]
            · have first : project.files.take written.length = written.map (·.1) := by
                rw [files]
                exact List.take_left' (List.length_map _)
              rw [first]
              have names : (written.map (·.1.name)).Nodup := by
                rw [files, List.map_append, List.map_map] at distinct
                exact distinct.of_append_left
              have filled := writes.filled free targetSome
                (fun entry among => flat _
                  (files ▸ List.mem_append_left _ (List.mem_map_of_mem among))) names
              exact filled.mono added more

end Output

namespace Generation

/-- The files of a document are written, and what comes of that is what comes of it, unless
what names the directory is no text. -/
theorem ofDocument_cases (tree : FileTree) (document : Fields) (directory : Setting)
    (encode : Bool) :
    (∃ e, (ofDocument tree document directory encode).result = .error e ∧ e.Gives [] ∧
        (ofDocument tree document directory encode).tree = tree) ∨
      ∃ target, directory = .plain (.str target) ∧
        let made := (Generator.start document encode).generate
        let written := Output.write tree made.project target made.plan
        (ofDocument tree document directory encode).result =
            written.result.map (fun _ => made.project) ∧
          (ofDocument tree document directory encode).tree = written.tree := by
  cases directory with
  | other => exact Or.inl ⟨_, rfl, trivial, rfl⟩
  | plain value =>
      cases value with
      | str target =>
          refine Or.inr ⟨target, rfl, ?_⟩
          rw [ofDocument]
          dsimp only
          cases (Output.write tree (Generator.start document encode).generate.project target
            (Generator.start document encode).generate.plan).result with
          | ok paths => exact ⟨rfl, rfl⟩
          | error e => exact ⟨rfl, rfl⟩
      | null | bool _ | int _ | float _ | arr _ | obj _ => exact Or.inl ⟨_, rfl, trivial, rfl⟩

/-- A generation fails before it writes and leaves the tree as it was, or it comes to
write the files of a document, and what comes of that is what comes of it. -/
theorem run_cases {client : HttpClient} (faultless : Fetch.Faultless client) (tree : FileTree)
    (settings : Settings) :
    (∃ e, (run tree client settings).result = .error e ∧ e.Gives [5, 6, 7] ∧
        (run tree client settings).tree = tree) ∨
      ∃ url document target, settings.url = .plain (.str url) ∧
        (Fetch.document tree client settings.maxRedirects url).result = .ok document ∧
        settings.directory = .plain (.str target) ∧
        let made := (Generator.start document settings.encode).generate
        let written := Output.write tree made.project target made.plan
        (run tree client settings).result = written.result.map (fun _ => made.project) ∧
          (run tree client settings).tree = written.tree := by
  rw [run]
  cases settings.url with
  | other => exact Or.inl ⟨_, rfl, trivial, rfl⟩
  | plain value =>
      cases value with
      | str url =>
          dsimp only
          cases fetched : (Fetch.document tree client settings.maxRedirects url).result with
          | error e => exact Or.inl ⟨e, rfl, Fetch.gives_document faultless fetched, rfl⟩
          | ok document =>
              refine (ofDocument_cases tree document settings.directory settings.encode).imp ?_ ?_
              · rintro ⟨e, failed, gives, same⟩
                exact ⟨e, failed, gives.mono (by simp), same⟩
              · rintro ⟨target, isTarget, result, left⟩
                exact ⟨url, document, target, rfl, fetched, isTarget, result, left⟩
      | null | bool _ | int _ | float _ | arr _ | obj _ => exact Or.inl ⟨_, rfl, trivial, rfl⟩

end Generation

namespace Command

open Generator Output

section

variable {σ : Type} [Toml.ValueType σ]

/-- What a run loads with the settings put together: the document of its URL, the form of
path values, and the text that names the directory. -/
inductive Loads (library : Toml.Library σ) (tree : FileTree) (client : HttpClient)
    (environment : Option Text) (arguments : Arguments) : Fields → Bool → Text → Prop
  | intro {config : Config σ} {url target : Text} {document : Fields} :
      effectiveConfig library tree arguments = .ok config →
      (settingsOf config arguments environment).url = .plain (.str url) →
      (Fetch.document tree client config.maxRedirects url).result = .ok document →
      (settingsOf config arguments environment).directory = .plain (.str target) →
      Loads library tree client environment arguments document config.encode target

/-- Errors of putting the settings together. -/
theorem gives_effectiveConfig {library : Toml.Library σ} {tree : FileTree}
    {arguments : Arguments} {e : GenError}
    (failed : effectiveConfig library tree arguments = .error e) : e.Gives [2] := by
  rw [effectiveConfig] at failed
  cases loaded : Config.loadBy library tree Config.fileName with
  | error other =>
      rw [loaded] at failed
      cases failed
      exact Config.gives_loadBy loaded
  | ok config =>
      rw [loaded] at failed
      cases failed

end

/-- A proper beginning of the files of a document lacks the package file. -/
theorem package_not_mem_take {document : Fields} {encode : Bool} {k : Nat}
    (less : k < (generateClient document encode).files.length) {file : Code.File}
    (among : file ∈ (generateClient document encode).files.take k) :
    file.name ≠ "__init__.py".toList := by
  have distinct := nodup_names_generate document encode
  rw [files_generate] at distinct less among
  rw [List.length_append, List.length_singleton] at less
  rw [List.take_append_of_le_length (by omega)] at among
  rw [List.map_append, List.nodup_append] at distinct
  obtain ⟨-, -, apart⟩ := distinct
  exact apart _ (List.mem_map_of_mem (List.mem_of_mem_take among)) _ List.mem_cons_self

/-- The names of the files of a document are without slashes. -/
theorem flat_of_mem_files {document : Fields} {encode : Bool} {file : Code.File}
    (among : file ∈ (generateClient document encode).files) : '/' ∉ file.name := by
  have inNames : file.name ∈ (generateClient document encode).fileNames :=
    List.mem_map_of_mem among
  rw [fileNames_generate] at inNames
  have spelled := isFileName_plannedNames (sound_generate document encode) _ inNames
  have other : ∀ {kind : Char → Bool}, kind '/' = false →
      ∀ c, kind c = true → decide (c ≠ '/') = true := by
    intro kind apart c isKind
    rw [decide_eq_true_eq]
    rintro rfl
    rw [apart] at isKind
    cases isKind
  have only : Text.Only (fun c => decide (c ≠ '/')) file.name :=
    spelled.all (other (by decide)) (other (by decide)) (by decide)
  exact only.not_mem (by decide)

variable {tree : FileTree} {client : HttpClient} {environment : Option Text} {argv : List Text}
  {arguments : Arguments} {verbose : Bool} {settings : Settings} {code : Int}

theorem exit_generate_of_ok {project : Code.Project}
    (done : (Generation.run tree client settings).result = .ok project) :
    (generate tree client verbose settings).exit = .ok 0 := by
  rw [generate]
  dsimp only
  rw [done]

theorem exit_generate_of_error {e : GenError}
    (failed : (Generation.run tree client settings).result = .error e) :
    (generate tree client verbose settings).exit = (ending e).1 := by
  rw [generate]
  dsimp only
  rw [failed]

/-- What the exit code of a generation tells. -/
theorem exit_generate_cases (free : tree.LinkFree) (faultless : Fetch.Faultless client)
    (returned : (generate tree client verbose settings).exit = .ok code) :
    let left := (generate tree client verbose settings).tree
    (code ∈ [5, 6, 7] ∧ left = tree) ∨
      ∃ url document target, settings.url = .plain (.str url) ∧
        (Fetch.document tree client settings.maxRedirects url).result = .ok document ∧
        settings.directory = .plain (.str target) ∧
        let files := (generateClient document settings.encode).files
        (code = 0 ∧ Filled tree left target files) ∨
          (code = 8 ∧ ∃ k < files.length, Filled tree left target (files.take k)) := by
  have tree_eq : (generate tree client verbose settings).tree =
      (Generation.run tree client settings).tree := rfl
  rw [tree_eq]
  rcases Generation.run_cases faultless tree settings with
    ⟨e, failed, gives, same⟩ | ⟨url, document, target, isUrl, fetched, isTarget, result, left⟩
  · rw [exit_generate_of_error failed] at returned
    exact Or.inl ⟨gives.mem returned, same⟩
  · refine Or.inr ⟨url, document, target, isUrl, fetched, isTarget, ?_⟩
    have some : (generateClient document settings.encode).files ≠ [] := by
      rw [files_generate]
      exact List.cons_ne_nil _ _
    rw [left]
    rcases write_cases free some (fun file among => flat_of_mem_files among)
      (nodup_names_generate document settings.encode) target
      (start document settings.encode).generate.plan with
      ⟨⟨paths, done⟩, filled⟩ | ⟨⟨e, failed, gives⟩, begun⟩
    · rw [generateClient] at done
      rw [done] at result
      rw [exit_generate_of_ok result] at returned
      cases returned
      exact Or.inl ⟨rfl, filled⟩
    · rw [generateClient] at failed
      rw [failed] at result
      rw [exit_generate_of_error result] at returned
      exact Or.inr ⟨List.mem_singleton.mp (gives.mem returned), begun⟩

/-- The exit code of a run without writing a configuration file tells what has become of
the tree, which has no links, with any library for the configuration file, that of `run`
among them, and any client that does not break down with a fault of the file system.  The
code is zero or one of the codes of failures.  After a failure other than one of the writer
the tree is as it was.
Else a document was loaded, and its files are the transport, a module for each tag and the
package file, in this order; with the code zero all of them are in the directory with their
texts, and with that of the writer a proper beginning of them, so that the package file is
as it was; and apart from these and further directories the tree is the same. -/
theorem exit_code_tells_tree {σ : Type} [Toml.ValueType σ] (library : Toml.Library σ)
    (parsed : parse argv = .ok arguments) (generates : arguments.initConfig = false)
    (free : tree.LinkFree) (faultless : Fetch.Faultless client)
    (returned : (runBy library tree client environment argv).exit = .ok code) :
    let left := (runBy library tree client environment argv).tree
    code ∈ [0, 2, 5, 6, 7, 8] ∧ (code ∈ [2, 5, 6, 7] → left = tree) ∧
      (code = 0 ∨ code = 8 → ∃ document encode target,
        Loads library tree client environment arguments document encode target ∧
          let files := (generateClient document encode).files
          files.map (·.name) = "common.py".toList ::
              (start document encode).generate.plan.moduleNames.map (· ++ ".py".toList) ++
                ["__init__.py".toList] ∧
            (code = 0 → Filled tree left target files) ∧
            (code = 8 → (∃ k < files.length, Filled tree left target (files.take k)) ∧
              ∀ path, left.IsChild target "__init__.py" path → FileTree.Stays tree left path)) := by
  have performed : runBy library tree client environment argv =
      perform library tree client environment arguments := by
    rw [runBy, parsed]
  rw [performed] at returned ⊢
  rw [perform] at returned ⊢
  cases loaded : effectiveConfig library tree arguments with
  | error e =>
      rw [loaded] at returned
      have isConfig : code ∈ [2] := (gives_effectiveConfig loaded).mem returned
      obtain rfl := List.mem_singleton.mp isConfig
      refine ⟨by decide, fun _ => rfl, fun other => ?_⟩
      rcases other with h | h <;> cases h
  | ok config =>
      rw [loaded] at returned
      dsimp only at returned ⊢
      rw [generates, if_neg Bool.false_ne_true] at returned ⊢
      rcases exit_generate_cases free faultless returned with
        ⟨isFetch, same⟩ | ⟨url, document, target, isUrl, fetched, isTarget, isWritten⟩
      · have others : ∀ c ∈ [(5 : Int), 6, 7], c ∈ [0, 2, 5, 6, 7, 8] ∧ ¬ (c = 0 ∨ c = 8) := by
          decide
        obtain ⟨known, other⟩ := others code isFetch
        exact ⟨known, fun _ => same, fun isOther => absurd isOther other⟩
      · have writes : code = 0 ∨ code = 8 := isWritten.imp And.left And.left
        have others : ∀ c : Int, c = 0 ∨ c = 8 → c ∈ [0, 2, 5, 6, 7, 8] ∧ c ∉ [2, 5, 6, 7] := by
          rintro c (rfl | rfl) <;> decide
        obtain ⟨known, other⟩ := others code writes
        refine ⟨known, fun isOther => absurd isOther other, fun _ => ?_⟩
        refine ⟨document, config.encode, target, .intro loaded isUrl fetched isTarget,
          fileNames_generate document config.encode, ?_, ?_⟩
        · rintro rfl
          rcases isWritten with ⟨-, filled⟩ | ⟨isEight, -⟩
          · exact filled
          · cases isEight
        · rintro rfl
          rcases isWritten with ⟨isZero, -⟩ | ⟨-, k, less, filled⟩
          · cases isZero
          · refine ⟨⟨k, less, filled⟩, fun path isPackage => filled.stays path ?_⟩
            intro file among child
            exact package_not_mem_take less among (child.name_eq isPackage)

/-- A directory with a document and an output directory in which a directory stands in
the way of the package file. -/
def blockedTree : FileTree where
  entries :=
    [(["w".toList], .directory),
      (["w".toList, "spec.json".toList], .file (Utf8.encode "\x7b\x7d")),
      (["w".toList, "out".toList], .directory),
      (["w".toList, "out".toList, "__init__.py".toList], .directory)]
  workingDirectory := ["w".toList]

theorem linkFree_blockedTree : blockedTree.LinkFree := by
  intro path target found
  rw [FileTree.entry?] at found
  split at found
  · cases found
  · simp only [blockedTree, Ordered.get?] at found
    repeat' split at found
    all_goals cases found

/-- There a run ends with the code of the writer after the first of two files. -/
theorem exit_code_tells_tree_blocked :
    let client := Http.client (Http.scripted [.failed "no answer"])
    let argv := ["spec.json".toList, "--dirname".toList, "out".toList]
    let left := (run blockedTree client none argv).tree
    (run blockedTree client none argv).exit = .ok 8 ∧
      left.entry? ["w".toList, "out".toList, "common.py".toList] =
        some (.file (Utf8.encode Transport.file.text)) ∧
      ∃ document encode target k,
        k < (generateClient document encode).files.length ∧
          Filled blockedTree left target ((generateClient document encode).files.take k) := by
  intro client argv left
  have faultless : Fetch.Faultless client := by
    apply Fetch.faultless_scripted
    intro fault among
    cases List.mem_singleton.mp among
  have returned : (run blockedTree client none argv).exit = .ok 8 := by rfl
  have parsed : parse argv = .ok { overrides :=
      { url := some "spec.json".toList, directory := some "out".toList } } := by rfl
  obtain ⟨-, -, writes⟩ :=
    exit_code_tells_tree Toml.ownLibrary parsed rfl linkFree_blockedTree faultless returned
  obtain ⟨document, encode, target, -, -, -, eight⟩ := writes (Or.inr rfl)
  obtain ⟨⟨k, less, filled⟩, -⟩ := eight rfl
  exact ⟨returned, by rfl, document, encode, target, k, less, filled⟩

end Command

end ClientGen
