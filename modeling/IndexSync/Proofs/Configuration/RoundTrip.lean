import IndexSync.Proofs.Configuration.Settled
import IndexSync.Proofs.Documents.Encoding
import IndexSync.Proofs.Storage.Files

/-!
# Configurations that are saved and loaded

A settled configuration is what its own document describes, and the document is what its file is
read as. So a configuration that was made of a document survives being saved, and saving it once
more does not change the file.

* `Config.ofDocument_toValue` — a settled configuration is what its document describes;
* `Config.parse_fileBytes` — a settled configuration is what its file is read as;
* `ConfigStore.load_saved` — what was saved is what is loaded, and is saved as it was.
-/

namespace IndexSync

open Decimal (Double Layout)

namespace Config

open Json (Legible Sized Writable)

/-! ### Sections of a document -/

theorem attemptsRule_of_le {n : Int} (h : 1 ≤ n) : attemptsRule n = none := if_neg (by omega)

theorem intervalRule_of_pos {n : Int} (h : 0 < n) : intervalRule n = none := if_neg (by omega)

/-- A section of a document has the settings that were put there. -/
theorem sectionOf_object {data : Entries} {name : String} {members : List (String × Value)}
    (h : Value.lookup? data name = some (object members)) (typeName : String) :
    sectionOf data name typeName = .ok (members.map fun (k, v) => (.str k, v)) := by
  rw [sectionOf, h]
  rfl

/-- Texts are checked texts. -/
theorem checkTexts_str (place : List Step) (index : Nat) (texts : List String) :
    checkTexts place index (texts.map .str) = .ok texts := by
  induction texts generalizing index with
  | nil => rfl
  | cons s texts ih =>
    rw [List.map_cons, checkTexts, ih]
    rfl

/-- Stripped patterns that are not blank are useful as they are. -/
theorem usefulPatterns_eq_self {patterns : List String}
    (h : ∀ s ∈ patterns, Text.strip s = s ∧ s ≠ "") : usefulPatterns patterns = patterns := by
  have hstrip : patterns.map Text.strip = patterns.map id :=
    List.map_congr_left fun s hs => (h s hs).1
  rw [usefulPatterns, hstrip, List.map_id, List.filter_eq_self]
  intro s hs
  simpa using (h s hs).2

/-- Stripped patterns are checked patterns. -/
theorem checkPatterns_str (place : List Step) {patterns : List String} (hne : patterns ≠ [])
    (h : ∀ s ∈ patterns, Text.strip s = s ∧ s ≠ "") :
    checkPatterns place (.list (patterns.map .str)) = .ok patterns := by
  simp only [checkPatterns, checkTextList, itemsOf?, checkTexts_str, usefulPatterns_eq_self h]

/-- The text of a proper path is a checked path. -/
theorem checkPath_text (place : List Step) {socket : Option FsPath}
    (h : ∀ p, socket = some p → p.Proper) :
    checkPath place ((socket.map fun p => Value.str p.text).getD .null) = .ok socket := by
  cases socket with
  | none => rfl
  | some p => exact congrArg (fun q => Except.ok (some q)) (FsPath.parse_text (h p rfl))

/-- A number is a checked number. -/
theorem checkNumber_float (place : List Step) (timeout : Option Double) :
    checkNumber place ((timeout.map Value.float).getD .null) = .ok timeout := by
  cases timeout <;> rfl

/-- The written budgets and intervals are those that were valid. -/
theorem checkPolling_toValue {data : Entries} {p : Polling} (hvalid : p.Valid)
    (h : Value.lookup? data "polling" = some p.toValue) : checkPolling data = .ok p := by
  unfold checkPolling
  rw [sectionOf_object h]
  simp [setting, Value.lookup?, checkInteger, integerOf, Checked.both, bind, Except.bind, pure,
    Except.pure, attemptsRule_of_le hvalid.maxAttempts, attemptsRule_of_le hvalid.registryAttempts,
    intervalRule_of_pos hvalid.warmup, intervalRule_of_pos hvalid.pingInterval,
    intervalRule_of_pos hvalid.discoveryInterval, intervalRule_of_pos hvalid.registryInterval]

/-- The written directory of the indexes is the directory, whatever the home directory is. -/
theorem checkIndexDir_text {entries : Entries} {dir : FsPath} (hdir : dir.Proper)
    (hstart : ¬dir.StartsAtHome) (h : Value.lookup? entries "index_dir" = some (.str dir.text))
    (home : Option FsPath) : checkIndexDir home entries = .ok (.ok dir) := by
  simp only [checkIndexDir, h, checkWrittenDir, userOf?_text hdir hstart, Option.bind_none,
    Text.CodePoints.lossy_codePoints, FsPath.parse_text hdir, FsPath.expandHome?_eq_self hstart,
    knownDir]

/-- The written section on indexes describes the indexes. -/
theorem checkIndex_toValue {data : Entries} {index : Index} (hdir : index.dir.Proper)
    (hstart : ¬index.dir.StartsAtHome) (h : Value.lookup? data "index" = some index.toValue)
    (home : Option FsPath) : checkIndex home data = .ok (.ok index) := by
  unfold checkIndex
  rw [sectionOf_object h]
  dsimp only
  rw [checkIndexDir_text hdir hstart (by simp [Value.lookup?])]
  rfl

/-- Written patterns are the patterns. -/
theorem checkDiscovery_toValue {data : Entries} {d : Discovery} (hne : d.patterns ≠ [])
    (hstripped : ∀ s ∈ d.patterns, Text.strip s = s ∧ s ≠ "")
    (h : Value.lookup? data "project" = some d.toValue) : checkDiscovery data = .ok d := by
  unfold checkDiscovery
  rw [sectionOf_object h]
  simp [setting, Value.lookup?, checkPatterns_str _ hne hstripped, bind, Except.bind, pure,
    Except.pure]

/-- The written section on the service describes the service. -/
theorem checkService_toValue {data : Entries} {s : Service}
    (hsocket : ∀ p, s.socket = some p → p.Proper)
    (h : Value.lookup? data "service" = some s.toValue) : checkService data = .ok s := by
  unfold checkService
  rw [sectionOf_object h]
  simp [setting, Value.lookup?, checkTextList, itemsOf?, checkTexts_str, checkPath_text _ hsocket,
    checkNumber_float, Checked.both, bind, Except.bind, pure, Except.pure]

/-- A settled configuration is what its document describes, whatever the home directory is. -/
theorem ofDocument_toValue {c : Config} (h : c.Settled) (home : Option FsPath) :
    ofDocument home c.toValue = .ok c := by
  have hentries : ofEntries home [(.str "polling", c.polling.toValue),
      (.str "index", c.index.toValue), (.str "project", c.project.toValue),
      (.str "service", c.service.toValue)] = .ok c := by
    unfold ofEntries
    rw [checkIndex_toValue h.dir h.expanded (by simp [Value.lookup?]),
      checkPolling_toValue h.polling (by simp [Value.lookup?]),
      checkDiscovery_toValue h.patterns h.stripped (by simp [Value.lookup?]),
      checkService_toValue h.socket (by simp [Value.lookup?])]
    rfl
  simp only [toValue, object, Value.ofOptions, ofDocument, List.map_cons, List.map_nil, hentries]

/-! ### Files of configurations -/

theorem writable_texts {depth : Nat} (texts : List String) :
    Writable (depth + 1) (.list (texts.map .str)) := by
  refine .list fun v hv => ?_
  obtain ⟨s, -, rfl⟩ := List.mem_map.1 hv
  exact .str s

/-- The document of a settled configuration can be written and read, if its timeout can. -/
theorem writable_toValue {depth : Nat} {c : Config} (h : c.Settled)
    (htimeout : ∀ x, c.service.timeout = some x → Legible x) :
    Writable (depth + 3) c.toValue := by
  have hsized := h.sized
  simp only [integers, List.forall_mem_cons] at hsized
  obtain ⟨h₁, h₂, h₃, h₄, h₅, h₆, h₇, -⟩ := hsized
  have hpolling : Writable (depth + 2) c.polling.toValue := by
    refine .map (by simp) ?_
    simp only [List.forall_mem_cons]
    exact ⟨.int h₁, .int h₂, .int h₃, .int h₄, .int h₅, .int h₆, List.forall_mem_nil _⟩
  have hindex : Writable (depth + 2) c.index.toValue := by
    refine .map (by simp) ?_
    simp only [List.forall_mem_cons]
    exact ⟨.int h₇, .str _, List.forall_mem_nil _⟩
  have hproject : Writable (depth + 2) c.project.toValue := by
    refine .map (by simp) ?_
    simp only [List.forall_mem_cons]
    exact ⟨writable_texts _, List.forall_mem_nil _⟩
  have hservice : Writable (depth + 2) c.service.toValue := by
    refine .map (by simp) ?_
    simp only [List.forall_mem_cons]
    refine ⟨writable_texts _, ?_, ?_, List.forall_mem_nil _⟩
    · cases c.service.socket with
      | none => exact .null
      | some p => exact .str p.text
    · cases hx : c.service.timeout with
      | none => exact .null
      | some x => exact .float (htimeout x hx)
  refine .map (by simp) ?_
  simp only [List.forall_mem_cons]
  exact ⟨hpolling, hindex, hproject, hservice, List.forall_mem_nil _⟩

/-- A settled configuration is what its file is read as, whatever the home directory is. -/
theorem parse_fileBytes {c : Config} (h : c.Settled)
    (htimeout : ∀ x, c.service.timeout = some x → Legible x) (home : Option FsPath) :
    parse home c.fileBytes = .ok c := by
  have hwritable : Writable Json.maxDepth c.toValue := @writable_toValue 987 c h htimeout
  have hplain : Json.Plain (Json.pretty c.toValue).toList := by
    rw [Json.pretty, String.toList_ofList]
    exact Json.plain_write hwritable 0
  unfold parse
  rw [fileBytes, decodeFile_encode hplain]
  dsimp only [bind, Except.bind]
  rw [Json.read_pretty hwritable]
  exact ofDocument_toValue h home

/-! ### Saving and loading -/

variable {h h' : Host} {file : FsPath} {c : Config}

/-- What was made sure and what was written when a configuration was saved. -/
theorem exists_of_save (hsave : save h file c = (.ok (), h')) :
    ∃ h₁, h.mkdirs file.parent Node.dirMode = (.ok (), h₁) ∧
      h₁.writeFile file c.fileBytes = .ok h' := by
  unfold save at hsave
  split at hsave
  · next h₁ hmake =>
    refine ⟨h₁, hmake, ?_⟩
    unfold Host.after at hsave
    split at hsave
    · next hwrite => rw [hwrite, (Prod.mk.inj hsave).2]
    · cases (Prod.mk.inj hsave).1
  · next hfail => exact absurd hsave (hfail h')

/-- A saved file is the file of the configuration. -/
theorem readFile_of_save (hfaults : h.faults = []) (hsave : save h file c = (.ok (), h')) :
    h'.readFile file = .ok c.fileBytes := by
  obtain ⟨h₁, hmake, hwrite⟩ := exists_of_save hsave
  exact Host.readFile_of_writeFile (Host.isDir_of_mkdirs hfaults hmake).2 hwrite

/-- Saving a configuration puts no faults on a host. -/
theorem faults_of_save (hfaults : h.faults = []) (hsave : save h file c = (.ok (), h')) :
    h'.faults = [] := by
  obtain ⟨h₁, hmake, hwrite⟩ := exists_of_save hsave
  have hfaults₁ := (Host.isDir_of_mkdirs hfaults hmake).2
  obtain ⟨-, _, _, hmade, -⟩ := Host.wrote_of_writeFile hfaults₁ hwrite
  rw [hmade, hfaults₁]

/-- Where a configuration was saved, any configuration can be saved. -/
theorem save_again (hfaults : h.faults = []) (hsave : save h file c = (.ok (), h'))
    (c' : Config) :
    ∃ h'', save h' file c' = (.ok (), h'') ∧ h''.readFile file = .ok c'.fileBytes := by
  obtain ⟨h₁, hmake, hwrite⟩ := exists_of_save hsave
  obtain ⟨hdir, hfaults₁⟩ := Host.isDir_of_mkdirs hfaults hmake
  have hfaults' := faults_of_save hfaults hsave
  have hmake' := Host.mkdirs_of_isDir hfaults' (Host.isDir_of_writeFile hfaults₁ hdir hwrite)
    Node.dirMode
  obtain ⟨h'', hwrite'⟩ := Host.writeFile_again hfaults₁ hwrite c'.fileBytes
  have hsave' : save h' file c' = (.ok (), h'') := by
    rw [save, hmake']
    dsimp only
    rw [hwrite']
    rfl
  exact ⟨h'', hsave', readFile_of_save hfaults' hsave'⟩

/-- The configuration in a saved file is loaded, and nothing is reported. -/
theorem load_of_save (hfaults : h.faults = []) (hsave : save h file c = (.ok (), h'))
    {c' : Config} (hparse : parse h'.home? c.fileBytes = .ok c') :
    load h' file = pure c' := by
  obtain ⟨h₁, hmake, hwrite⟩ := exists_of_save hsave
  have hfaults₁ := (Host.isDir_of_mkdirs hfaults hmake).2
  unfold load
  rw [Host.exists?_of_writeFile hfaults₁ hwrite, Host.readFile_of_writeFile hfaults₁ hwrite]
  dsimp only
  rw [hparse]
  rfl

end Config

namespace ConfigStore

/-- What a store saves of a document is what any store of the file loads, and saving it from there
leaves the same bytes in the file. -/
theorem load_saved {origin h h' : Host} {text : String} {doc : Value} {c : Config}
    {writer saved reader : ConfigStore}
    (hhome : ∀ dir, origin.home? = some dir → dir.isAbsolute = true)
    (hread : Json.read text = .ok doc) (hdoc : Config.ofDocument origin.home? doc = .ok c)
    (hfinite : ∀ x, c.service.timeout = some x → Json.Finite x)
    (hnumber : ∀ x, c.service.timeout = some x →
      Json.read (Layout.document.render x) = .ok (.float x))
    (hfaults : h.faults = []) (hsave : writer.save h (some c) = (.ok (), h', saved))
    (hfile : reader.file = writer.file) :
    ∃ loaded, reader.load h' = (pure c, loaded) ∧
      ∃ h'' resaved, loaded.save h' none = (.ok (), h'', resaved) ∧
        h'.readFile writer.file = .ok c.fileBytes ∧ h''.readFile writer.file = .ok c.fileBytes := by
  have hsettled : c.Settled :=
    Config.ofDocument_settled (fun _ => Host.home?_proper) hhome (Json.read_document hread) hdoc
  have hparse : Config.parse h'.home? c.fileBytes = .ok c :=
    Config.parse_fileBytes hsettled (fun x hx => ⟨hfinite x hx, hnumber x hx⟩) _
  have hsave' : Config.save h writer.file c = (.ok (), h') := by
    simp only [save, Option.some_or] at hsave
    split at hsave
    · next hwritten =>
      obtain ⟨-, hh', -⟩ := Prod.mk.inj hsave |>.imp_right Prod.mk.inj
      rw [hwritten, hh']
    · cases (Prod.mk.inj hsave).1
  have hload := Config.load_of_save hfaults hsave' hparse
  obtain ⟨h'', hresave, hbytes⟩ := Config.save_again hfaults hsave' c
  refine ⟨{ reader with current := some c }, ?_, h'', { reader with current := some c }, ?_,
    Config.readFile_of_save hfaults hsave', hbytes⟩
  · rw [load, hfile, hload]
    rfl
  · simp only [save, Option.none_or, hfile, hresave]

/-- A document with a tilde, with characters that are escaped, and with blanks around a pattern. -/
def tildeDocument : Value :=
  Config.object
    [("index", Config.object [("index_dir", .str "~/é")]),
     ("project", Config.object [("manifest_patterns", .list [.str " \x01*.u "])])]

/-- The document can be written and read. -/
theorem writable_tildeDocument : Json.Writable Json.maxDepth tildeDocument := by
  refine .map (by simp) (List.forall_mem_cons.2 ⟨?_, List.forall_mem_singleton.2 ?_⟩)
  · exact .map (by simp) (List.forall_mem_singleton.2 (.str _))
  · exact .map (by simp)
      (List.forall_mem_singleton.2 (.list (List.forall_mem_singleton.2 (.str _))))

/-- What the document describes if the home directory is the root. -/
def tildeConfig : Config :=
  { Config.standard with
    index := { dir := ⟨.root, ["é"]⟩ }
    project := { patterns := ["\x01*.u"] } }

/-- A host on which the root is the home directory. -/
def rootHost : Host := { Host.bare with env := [("HOME", "/")] }

/-- A store in a directory below the working directory. -/
def nested : ConfigStore := { file := ⟨.relative, ["d", "c"]⟩ }

/-- The written document is read, made a configuration, saved where no directory is yet, loaded, and
saved once more. -/
theorem load_saved_tilde :
    ∃ h' saved, nested.save rootHost (some tildeConfig) = (.ok (), h', saved) ∧
      ∃ loaded, nested.load h' = (pure tildeConfig, loaded) ∧
        ∃ h'' resaved, loaded.save h' none = (.ok (), h'', resaved) ∧
          h'.readFile nested.file = .ok tildeConfig.fileBytes ∧
          h''.readFile nested.file = .ok tildeConfig.fileBytes := by
  have hread : Json.read (Json.compact tildeDocument) = .ok tildeDocument :=
    Json.read_compact writable_tildeDocument
  have hdoc : Config.ofDocument rootHost.home? tildeDocument = .ok tildeConfig := by rfl
  have hhome : ∀ dir, rootHost.home? = some dir → dir.isAbsolute = true := by
    rintro dir ⟨⟩
    rfl
  have htimeout : ∀ x, tildeConfig.service.timeout = some x →
      Json.Finite x ∧ Json.read (Layout.document.render x) = .ok (.float x) := by
    rintro x ⟨⟩
    exact ⟨⟨_, _, _, rfl⟩, rfl⟩
  have hsave : nested.save rootHost (some tildeConfig) =
      (.ok (), (nested.save rootHost (some tildeConfig)).2) := Prod.ext (by rfl) rfl
  exact ⟨_, _, hsave, load_saved hhome hread hdoc (fun x hx => (htimeout x hx).1)
    (fun x hx => (htimeout x hx).2) rfl hsave rfl⟩

end ConfigStore

end IndexSync
