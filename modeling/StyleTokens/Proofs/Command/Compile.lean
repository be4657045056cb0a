import StyleTokens.Command.Session
import StyleTokens.Proofs.Files.Writing
import StyleTokens.Proofs.Substitution.Concatenation

/-! Compiling is all or nothing. The first stage that fails decides the error, and then nothing is
printed and no file changes. Otherwise the whole text goes to the output, or to the one file that it is
for. -/

set_option autoImplicit false

namespace StyleTokens

/-! ### Loading several files -/

/-- Each of the files can be loaded, and these are their full names and values. -/
def Files.Loads {σ : Type} (reader : MapReader σ) (files : Files) (paths : List String)
    (loaded : List (String × Value σ)) : Prop :=
  List.Forall₂ (fun path found => Layers.readFile reader files path = .ok found) paths loaded

namespace Files

variable {σ : Type} {reader : MapReader σ} {files : Files} {paths before after : List String}
  {path : String} {loaded : List (String × Value σ)} {error : LoadError}

/-- All files can be loaded, or there is a first one that cannot. -/
theorem loads_or_first_bad (reader : MapReader σ) (files : Files) (paths : List String) :
    (∃ loaded, files.Loads reader paths loaded) ∨
      ∃ before path after loaded error, paths = before ++ path :: after ∧
        files.Loads reader before loaded ∧ Layers.readFile reader files path = .error error := by
  induction paths with
  | nil => exact .inl ⟨[], .nil⟩
  | cons path paths ih =>
    cases read : Layers.readFile reader files path with
    | error error => exact .inr ⟨[], path, paths, [], error, rfl, .nil, read⟩
    | ok found =>
      rcases ih with ⟨loaded, loads⟩ | ⟨before, bad, after, loaded, error, rfl, loads, failed⟩
      · exact .inl ⟨found :: loaded, .cons read loads⟩
      · exact .inr ⟨path :: before, bad, after, found :: loaded, error, rfl, .cons read loads, failed⟩

theorem loadBy_eq (reader : MapReader σ) (store : Layers σ) (files : Files) (path : String) :
    store.loadBy reader files path =
      (Layers.readFile reader files path).map fun found => store.insert found.2 (some found.1) := by
  unfold Layers.loadBy Layers.loadFile
  cases Layers.readFile reader files path <;> rfl

theorem Loads.load (loads : files.Loads reader paths loaded) (store : Layers σ) :
    ∃ store' : Layers σ,
      paths.foldlM (fun store path => store.loadBy reader files path) store = .ok store' ∧
        store'.values = store.values ++ loaded.map Prod.snd := by
  induction loads generalizing store with
  | nil => exact ⟨store, rfl, by simp⟩
  | @cons path found paths loaded read _ ih =>
    obtain ⟨store', went, values⟩ := ih (store.insert found.2 (some found.1))
    refine ⟨store', ?_, ?_⟩
    · rw [List.foldlM_cons, loadBy_eq, read]
      exact went
    · rw [values, Layers.insert, List.append_assoc]
      rfl

theorem Loads.loadAll (loads : files.Loads reader paths loaded) :
    ∃ store, Layers.loadAll reader files paths = .ok store ∧ store.values = loaded.map Prod.snd :=
  loads.load Layers.empty

theorem Loads.loadAll_bad (loads : files.Loads reader before loaded)
    (bad : Layers.readFile reader files path = .error error) :
    Layers.loadAll reader files (before ++ path :: after) = .error error := by
  obtain ⟨store, went, -⟩ := loads.load Layers.empty
  rw [Layers.loadAll, List.foldlM_append, went]
  change (path :: after).foldlM (fun store path => store.loadBy reader files path) store = .error error
  rw [List.foldlM_cons, loadBy_eq, bad]
  rfl

end Files

namespace Command

/-! ### Compiling -/

/-- What compiling comes to, by the first stage that fails: the maps in their order, the source, and a
strict pass over the layers of exactly these maps. Only a pass tells its log anything. -/
inductive Compiles (reader : MapReader Unit) (files : Files) (input : Except Fault String)
    (options : CompileOptions) : Except CompileError String × List Event → Prop where
  | badMap {before after : List String} {path : String} {loaded : List (String × Value Unit)}
      {error : LoadError} (maps : options.maps = before ++ path :: after)
      (loads : files.Loads reader before loaded)
      (bad : Layers.readFile reader files path = .error error) :
      Compiles reader files input options (.error (.load error), [])
  | badSource {loaded : List (String × Value Unit)} {fault : Fault}
      (loads : files.Loads reader options.maps loaded)
      (unread : readSource files input options.input = .error fault) :
      Compiles reader files input options (.error (.source fault), [])
  | aborted {loaded : List (String × Value Unit)} {source : String} {failure : TokenFailure}
      {log : List Event} (loads : files.Loads reader options.maps loaded)
      (read : readSource files input options.input = .ok source) (strict : options.lenient = false)
      (stopped : substitute (loaded.map Prod.snd) source options.config () [] =
        (.error failure, (), log)) :
      Compiles reader files input options (.error (.token failure), log)
  | done {loaded : List (String × Value Unit)} {source : String} {done : Substitution}
      {log : List Event} (loads : files.Loads reader options.maps loaded)
      (read : readSource files input options.input = .ok source)
      (went : substitute (loaded.map Prod.snd) source options.config () [] = (.ok done, (), log)) :
      Compiles reader files input options (.ok (Text.trim done.text ++ "\n"), log)

section

variable {reader : MapReader Unit} {files : Files} {input : Except Fault String}
  {options : CompileOptions} {result : Except CompileError String × List Event}

theorem goesOn_of_lenient (lenient : options.lenient = true) : options.config.GoesOn :=
  ⟨by rw [CompileOptions.config, lenient]; rfl, fun _ _ => rfl⟩

/-- Failed tokens do not end a lenient pass. -/
theorem substitute_of_lenient (lenient : options.lenient = true) (layers : List (Value Unit))
    (source : String) :
    ∃ done log, substitute layers source options.config () [] = (.ok done, (), log) :=
  ⟨_, _, Prod.ext (settle_of_goesOn layers (goesOn_of_lenient lenient) ..) rfl⟩

theorem compile_of_loads {loaded : List (String × Value Unit)} {source : String}
    (loads : files.Loads reader options.maps loaded)
    (read : readSource files input options.input = .ok source) :
    compile reader files input options =
      let (result, _, log) := substitute (loaded.map Prod.snd) source options.config () []
      (result.mapError .token >>= fun done => .ok (Text.trim done.text ++ "\n"), log) := by
  obtain ⟨store, went, values⟩ := loads.loadAll
  rw [compile, went, read, ← values]

theorem Compiles.eq (compiles : Compiles reader files input options result) :
    result = compile reader files input options := by
  cases compiles with
  | badMap maps loads bad =>
    rw [compile, maps, loads.loadAll_bad bad]
  | badSource loads unread =>
    obtain ⟨store, went, -⟩ := loads.loadAll
    rw [compile, went, unread]
  | aborted loads read strict stopped =>
    rw [compile_of_loads loads read, stopped]
    rfl
  | done loads read went =>
    rw [compile_of_loads loads read, went]
    rfl

theorem exists_compiles (reader : MapReader Unit) (files : Files) (input : Except Fault String)
    (options : CompileOptions) : ∃ result, Compiles reader files input options result := by
  rcases Files.loads_or_first_bad reader files options.maps with
    ⟨loaded, loads⟩ | ⟨before, path, after, loaded, error, maps, loads, bad⟩
  · cases read : readSource files input options.input with
    | error fault => exact ⟨_, .badSource loads read⟩
    | ok source =>
      rcases ended : substitute (loaded.map Prod.snd) source options.config () [] with
        ⟨failure | done, host, log⟩
      · -- a pass that ended early was strict
        refine ⟨_, .aborted loads read ?_ ended⟩
        rw [Bool.eq_false_iff]
        intro lenient
        obtain ⟨done, log, went⟩ := substitute_of_lenient lenient (loaded.map Prod.snd) source
        rw [ended] at went
        cases went
      · exact ⟨_, .done loads read ended⟩
  · exact ⟨_, .badMap maps loads bad⟩

/-- The stages decide what `compile` gives. -/
theorem compiles_iff :
    Compiles reader files input options result ↔ result = compile reader files input options := by
  refine ⟨Compiles.eq, ?_⟩
  rintro rfl
  obtain ⟨result, compiles⟩ := exists_compiles reader files input options
  rwa [← compiles.eq]

end

/-! ### Ending -/

/-- How a job ends at a place, by what compiling came to: with the texts of the error, the text on the
output, the text in the file that it is for, or the reason for which that cannot be written. The log is
that of the pass. Only in the third case a file is not as it was. -/
inductive Ends (here : Place) (output : Option String) :
    Except CompileError String × List Event → Outcome × FileTree → Prop where
  | failed {error : CompileError} {log : List Event} :
      Ends here output (.error error, log) (⟨"", log, lines error.chain, 1, none⟩, here.root)
  | printed {text : String} {log : List Event} (unnamed : output = none) :
      Ends here output (.ok text, log) (⟨text, log, "", 0, none⟩, here.root)
  | written {text path : String} {log : List Event} {names : List String} {there : Place}
      (named : output = some path) (found : here.target path = .ok names)
      (wrote : here.Wrote there path text names) :
      Ends here output (.ok text, log) (⟨"", log, "", 0, some (path, text)⟩, there.root)
  | unwritten {text path : String} {log : List Event} {fault : Fault} (named : output = some path)
      (refused : here.target path = .error fault) :
      Ends here output (.ok text, log) (⟨"", log, lines [fault.message], 1, none⟩, here.root)

section

variable {reader : MapReader Unit} {place here : Place} {input : Except Fault String}
  {options : CompileOptions} {args : List String} {directory : Option String}

theorem target_of_refused {path text : String} {fault : Fault}
    (refused : here.write path text = .error fault) : here.target path = .error fault := by
  rw [Place.write] at refused
  cases found : here.target path with
  | error fault =>
    rw [found] at refused
    cases refused
    rfl
  | ok names =>
    rw [found] at refused
    cases refused

theorem ends_settle (reader : MapReader Unit) (here : Place) (input : Except Fault String)
    (options : CompileOptions) :
    Ends here options.output (compile reader here.files input options)
      (((Job.compile options).run reader here.files input).settle here) := by
  change Ends here options.output _ ((compileOutcome reader here.files input options).settle here)
  rw [compileOutcome]
  rcases compile reader here.files input options with ⟨error | text, log⟩
  · exact .failed
  · cases named : options.output with
    | none => exact .printed rfl
    | some path =>
      dsimp only [Outcome.settle]
      cases written : here.write path text with
      | ok there =>
        obtain ⟨names, found, wrote⟩ := Place.wrote_of_write written
        exact .written rfl found wrote
      | error fault => exact .unwritten rfl (target_of_refused written)

theorem sessionBy_of_read {job : Job} (parsed : read args = .ok ⟨directory, job⟩)
    (entered : directory.elim (.ok place) place.enter = .ok here) (input : Except Fault String) :
    sessionBy reader place input args = (job.run reader here.files input).settle here := by
  rw [sessionBy, parsed]
  cases directory with
  | none =>
    cases entered
    rfl
  | some path =>
    have entered : place.enter path = .ok here := entered
    dsimp only
    rw [entered]
    rfl

theorem root_of_entered (entered : directory.elim (.ok place) place.enter = .ok here) :
    here.root = place.root := by
  cases directory with
  | none =>
    cases entered
    rfl
  | some path => exact Place.root_of_enter entered

theorem Ends.of_target {path text : String} {log : List Event} {names : List String}
    {ended : Outcome × FileTree} (ends : Ends here (some path) (.ok text, log) ended)
    (found : here.target path = .ok names) :
    ∃ there, ended = (⟨"", log, "", 0, some (path, text)⟩, there.root) ∧
      here.Wrote there path text names := by
  cases ends with
  | printed unnamed => cases unnamed
  | written named found' wrote =>
    cases named
    rw [found] at found'
    cases found'
    exact ⟨_, rfl, wrote⟩
  | unwritten named refused =>
    cases named
    rw [found] at refused
    cases refused

theorem Ends.of_error {output : Option String} {error : CompileError} {log : List Event}
    {ended : Outcome × FileTree} (ends : Ends here output (.error error, log) ended) :
    ended = (⟨"", log, lines error.chain, 1, none⟩, here.root) := by
  cases ends
  rfl

/-- A lenient job succeeds whatever tokens the source has. -/
theorem status_of_lenient (lenient : options.lenient = true) {loaded : List (String × Value Unit)}
    (loads : here.files.Loads reader options.maps loaded) {source : String}
    (read : readSource here.files input options.input = .ok source)
    (writable : ∀ path ∈ options.output, ∃ names, here.target path = .ok names)
    {ended : Outcome × FileTree}
    (ends : Ends here options.output (compile reader here.files input options) ended) :
    ended.1.status = 0 := by
  obtain ⟨done, log, went⟩ := substitute_of_lenient lenient (loaded.map Prod.snd) source
  rw [← (Compiles.done loads read went).eq] at ends
  generalize Text.trim done.text ++ "\n" = text at ends
  cases named : options.output with
  | none =>
    rw [named] at ends
    cases ends with
    | printed => rfl
    | written wanted => cases wanted
    | unwritten wanted => cases wanted
  | some path =>
    obtain ⟨names, found⟩ := writable path named
    rw [named] at ends
    obtain ⟨there, went, -⟩ := ends.of_target found
    rw [went]

/-- A command line that asks for compiling comes to one result, and ends by it: on a failure with its
texts, the status 1 and no file changed, and otherwise with the whole text. If it is lenient, then
tokens that fail are no failure. Maps may be read by any readers. -/
theorem session_compile (reader : MapReader Unit)
    (parsed : read args = .ok ⟨directory, .compile options⟩)
    (entered : directory.elim (.ok place) place.enter = .ok here) (input : Except Fault String) :
    let ended := sessionBy reader place input args
    here.root = place.root ∧
      (∃! result, Compiles reader here.files input options result) ∧
      (∀ result, Compiles reader here.files input options result →
        Ends here options.output result ended) ∧
      (options.lenient = true → ∀ (loaded : List (String × Value Unit)) (source : String),
        here.files.Loads reader options.maps loaded →
        readSource here.files input options.input = .ok source →
        (∀ path ∈ options.output, ∃ names, here.target path = .ok names) →
        ended.1.status = 0) := by
  intro ended
  have ends : Ends here options.output (compile reader here.files input options) ended := by
    rw [show ended = _ from sessionBy_of_read parsed entered input]
    exact ends_settle reader here input options
  refine ⟨root_of_entered entered, ?_, ?_, ?_⟩
  · exact ⟨_, compiles_iff.2 rfl, fun _ compiles => compiles.eq⟩
  · intro result compiles
    rw [compiles.eq]
    exact ends
  · intro lenient loaded source loads read writable
    exact status_of_lenient lenient loads read writable ends

theorem session_compile_sheet :
    let place : Place := ⟨.directory [
      ("theme.json", .file "\x7b\"a\": \x7b\"b\": \"red\"\x7d\x7d".toUTF8),
      ("sheet", .file " color: $a.b; ".toUTF8)], []⟩
    let ended := fun reader maps =>
      sessionBy reader place (.ok "") (["compile", "-o", "sheet.css", "sheet"] ++ maps)
    (∃ there, ended Format.read ["-m", "theme.json"] =
        (⟨"", [], "", 0, some ("sheet.css", "color: red;\n")⟩, there.root) ∧
      place.Wrote there "sheet.css" "color: red;\n" ["sheet.css"]) ∧
    ended Format.read ["-m", "theme.json", "-m", "theme.toml"] =
      (⟨"", [], "Unsupported value map format: theme.toml\n", 1, none⟩, place.root) ∧
    ended Format.read [] =
      (⟨"", [.notReplaced "missing or invalid token: a.b" "$a.b" "sheet"],
        "token `$a.b` at 8 not replaced\nmissing or invalid token: a.b\n", 1, none⟩, place.root) ∧
    ended (fun _ _ => .error ["it is blue"]) ["-m", "theme.json"] =
      (⟨"", [], "Unable to parse json value map\nit is blue\n", 1, none⟩, place.root) := by
  intro place ended
  let options (maps : List String) : CompileOptions :=
    ⟨maps, some "sheet.css", false, none, some "sheet"⟩
  have entered : (none : Option String).elim (.ok place) place.enter = .ok place := rfl
  have parsed : read ["compile", "-o", "sheet.css", "sheet", "-m", "theme.json"] =
      .ok ⟨none, .compile (options ["theme.json"])⟩ := by decide +kernel
  refine ⟨?_, ?_, ?_, ?_⟩
  · have compiled : (Except.ok "color: red;\n", []) =
        compile Format.read place.files (.ok "") (options ["theme.json"]) := by decide +kernel
    obtain ⟨-, -, ends, -⟩ := session_compile Format.read parsed entered (.ok "")
    exact (ends _ (compiles_iff.2 compiled)).of_target (by decide +kernel)
  · have parsed : read ["compile", "-o", "sheet.css", "sheet", "-m", "theme.json", "-m", "theme.toml"] =
        .ok ⟨none, .compile (options ["theme.json", "theme.toml"])⟩ := by decide +kernel
    have compiled : (Except.error (.load (.unsupportedFormat "theme.toml")), []) =
        compile Format.read place.files (.ok "") (options ["theme.json", "theme.toml"]) := by
      decide +kernel
    obtain ⟨-, -, ends, -⟩ := session_compile Format.read parsed entered (.ok "")
    exact (ends _ (compiles_iff.2 compiled)).of_error
  · have parsed : read ["compile", "-o", "sheet.css", "sheet"] =
        .ok ⟨none, .compile (options [])⟩ := by decide +kernel
    have compiled : (Except.error (.token ⟨⟨8, 12, "$a.b", none, ["a", "b"], []⟩, .missing "a.b"⟩),
          [.notReplaced "missing or invalid token: a.b" "$a.b" "sheet"]) =
        compile Format.read place.files (.ok "") (options []) := by decide +kernel
    obtain ⟨-, -, ends, -⟩ := session_compile Format.read parsed entered (.ok "")
    exact (ends _ (compiles_iff.2 compiled)).of_error
  · have compiled : (Except.error (.load (@LoadError.malformed .json ["it is blue"])), []) =
        compile (fun _ _ => .error ["it is blue"]) place.files (.ok "") (options ["theme.json"]) := by
      decide +kernel
    obtain ⟨-, -, ends, -⟩ := session_compile _ parsed entered (.ok "")
    exact (ends _ (compiles_iff.2 compiled)).of_error

end

end Command
end StyleTokens
