import IndexSync.Proofs.Configuration.Lookup
import IndexSync.Proofs.Configuration.RoundTrip
import IndexSync.Proofs.Search.Location
import IndexSync.Proofs.Storage.Rewriting

/-!
# Configurations that are found again

A configuration is saved to the file that the search from a directory comes to. The search that
comes after finds that file again: either it was written over, which leaves all else as it was, or
it is a new one in the directory where the search starts. From a path further down, the search
passes the directories on the way to that directory first, and goes on if it can tell that they have
no file.

* `FsPath.chain_of_mem_ancestors` — the way up from a path below a directory;
* `Config.findFrom_below` — the search from such a path;
* `Config.findFrom_of_save` — the search after a configuration was saved;
* `ConfigStore.saved_found_again` — what was saved is found and loaded.
-/

namespace IndexSync

namespace FsPath

variable {start dir inner : FsPath}

/-- The strict ancestors of an entry are its directory and those above. -/
theorem ancestors_child (p : FsPath) (name : String) : (p.child name).ancestors = p.chain := by
  have hprefixes : properPrefixes (p.names ++ [name]) = p.names :: properPrefixes p.names := by
    unfold properPrefixes
    rw [List.length_append, List.length_singleton, List.range_succ, List.reverse_append,
      List.reverse_singleton, List.singleton_append, List.map_cons, List.take_left]
    refine congrArg (p.names :: ·) (List.map_congr_left fun n hn => ?_)
    rw [List.mem_reverse, List.mem_range] at hn
    exact List.take_append_of_le_length hn.le
  rw [ancestors, child, hprefixes]
  rfl

/-- The way up from an entry goes on as that from its directory. -/
theorem chain_child (p : FsPath) (name : String) :
    (p.child name).chain = p.child name :: p.chain := by
  rw [chain, ancestors_child]

theorem mem_ancestors_child (p : FsPath) (name : String) : p ∈ (p.child name).ancestors := by
  rw [ancestors_child]
  exact List.mem_cons_self

/-- The way up from a directory does not lead back below it. -/
theorem not_mem_ancestors_of_mem_chain (hdir : dir ∈ start.chain) : start ∉ dir.ancestors := by
  intro hstart
  have hless := (mem_ancestors.1 hstart).2.2
  have hmore := (mem_chain.1 hdir).2.length_le
  omega

/-- The way up from a directory is the end of the way up from all that is below. -/
theorem chain_suffix (p : FsPath) (names : List String) :
    ∃ nearer, FsPath.chain { p with names := p.names ++ names } = nearer ++ p.chain := by
  induction names using List.reverseRecOn with
  | nil => exact ⟨[], by rw [List.append_nil, List.nil_append]⟩
  | append_singleton names name ih =>
    obtain ⟨nearer, hnearer⟩ := ih
    refine ⟨{ p with names := p.names ++ (names ++ [name]) } :: nearer, ?_⟩
    have hchild : FsPath.mk p.anchor (p.names ++ (names ++ [name])) =
        child { p with names := p.names ++ names } name := by
      rw [child, List.append_assoc]
    rw [hchild, chain_child, hnearer, List.cons_append]

/-- A directory is strictly below another one, and is a path or above it. -/
def Between (start dir inner : FsPath) : Prop := dir ∈ inner.chain ∧ start ∈ dir.ancestors

/-- The way up from a path below a directory passes those between, and goes on as that from the
directory. -/
theorem chain_of_mem_ancestors (hinner : start ∈ inner.ancestors) :
    ∃ nearer, inner.chain = nearer ++ start.chain ∧
      ∀ dir, dir ∈ nearer ↔ Between start dir inner := by
  obtain ⟨hanchor, ⟨names, hnames⟩, -⟩ := mem_ancestors.1 hinner
  obtain ⟨nearer, hchain⟩ := chain_suffix start names
  have hpath : FsPath.mk start.anchor (start.names ++ names) = inner := by
    rw [hnames, hanchor]
  rw [hpath] at hchain
  refine ⟨nearer, hchain, fun dir => ⟨fun hdir => ?_, fun ⟨hdir, hstart⟩ => ?_⟩⟩
  · have hmem : dir ∈ inner.chain := hchain ▸ List.mem_append_left _ hdir
    obtain ⟨hanchor', hprefix⟩ := mem_chain.1 hmem
    have hless := length_lt_of_chain hchain hdir
    have hbelow := List.prefix_of_prefix_length_le ⟨names, hnames⟩ hprefix hless.le
    exact ⟨hmem, mem_ancestors.2 ⟨hanchor.trans hanchor'.symm, hbelow, hless⟩⟩
  · rw [hchain, List.mem_append] at hdir
    exact hdir.resolve_right fun habove => not_mem_ancestors_of_mem_chain habove hstart

/-- An entry has only itself before its directory. -/
theorem between_child {p : FsPath} {name : String} :
    Between p dir (p.child name) ↔ dir = p.child name := by
  constructor
  · rintro ⟨hmem, hstart⟩
    rw [chain_child, List.mem_cons] at hmem
    exact hmem.resolve_right fun habove => not_mem_ancestors_of_mem_chain habove hstart
  · rintro rfl
    exact ⟨List.mem_cons_self, mem_ancestors_child p name⟩

end FsPath

namespace Config

open FsPath (Between)

variable {h h' : Host} {start inner dir file : FsPath} {nearer dirs : List FsPath} {c : Config}

/-! ### Searches from below -/

/-- The search passes directories that have no file. -/
theorem firstExisting_append (hnone : ∀ dir ∈ nearer, h.exists? (fileIn dir) = .ok false) :
    firstExisting h ((nearer ++ dirs).map fileIn) = firstExisting h (dirs.map fileIn) := by
  induction nearer with
  | nil => rfl
  | cons dir nearer ih =>
    rw [List.forall_mem_cons] at hnone
    rw [List.cons_append, firstExisting_cons, hnone.1]
    exact ih hnone.2

/-- No directory between a path and one above it has a configuration file. -/
def Vacant (h : Host) (start inner : FsPath) : Prop :=
  ∀ dir, Between start dir inner → h.exists? (fileIn dir) ≠ .ok true

theorem vacant_child {name : String} :
    Vacant h start (start.child name) ↔ h.exists? (fileIn (start.child name)) ≠ .ok true := by
  simp only [Vacant, FsPath.between_child, forall_eq]

/-- The search from a path below a directory comes to what the search from the directory comes to,
if no directory between has a file, unless it is blocked by one of them. -/
theorem findFrom_below (hinner : start ∈ inner.ancestors) (hvacant : Vacant h start inner) :
    (findFrom h inner = findFrom h start ∧
      ∀ dir, Between start dir inner → h.exists? (fileIn dir) = .ok false) ∨
    ∃ dir errno, Between start dir inner ∧ h.Obscured (fileIn dir) errno ∧
      findFrom h inner = .error (.system errno (some (fileIn dir).text)) := by
  obtain ⟨nearer, hchain, hmem⟩ := FsPath.chain_of_mem_ancestors hinner
  unfold findFrom
  rw [hchain]
  rcases hfirst : firstExisting h (nearer.map fileIn) with e | _ | file
  · -- What blocks the search among the directories between blocks it on the whole way.
    obtain ⟨before, dir, after, rfl, hbefore, hdir⟩ := firstExisting_eq_error.1 hfirst
    have hbetween := (hmem dir).1 (List.mem_append_right _ List.mem_cons_self)
    obtain ⟨errno, hobscured, rfl⟩ := Host.exists?_eq_error.1 hdir
    refine Or.inr ⟨dir, errno, hbetween, hobscured, firstExisting_eq_error.2 ?_⟩
    exact ⟨before, dir, after ++ start.chain, List.append_assoc _ _ _, hbefore, hdir⟩
  · have hnone := firstExisting_eq_none.1 hfirst
    exact Or.inl ⟨firstExisting_append hnone, fun dir hdir => hnone dir ((hmem dir).2 hdir)⟩
  · obtain ⟨before, dir, after, rfl, -, hdir, -⟩ := firstExisting_eq_some.1 hfirst
    have hbetween := (hmem dir).1 (List.mem_append_right _ List.mem_cons_self)
    exact absurd hdir (hvacant dir hbetween)

/-- An entry with a very long name blocks the search that starts there. -/
theorem obscured_of_longName {name : String} (hfaults : h.faults = [])
    (habsolute : start.isAbsolute = true) (hnames : ∀ n ∈ start.names, NullFree n)
    (hname : NullFree name) (hlong : Host.maxPathBytes ≤ name.toList.length) :
    h.Obscured (fileIn (start.child name)) Errno.nameTooLong := by
  have hnull : NullFree (fileIn (start.child name)).text := by
    refine NullFree.text ?_
    simp only [fileIn, FsPath.child, List.forall_mem_append, List.forall_mem_singleton]
    exact ⟨⟨⟨hnames, hname⟩, by decide⟩, by decide⟩
  have hcall : h.callText? (fileIn (start.child name)) = some (fileIn (start.child name)).text :=
    if_pos habsolute
  have hfront : ∃ front, (start.child name).text = front ++ name := by
    by_cases hnil : start.names = []
    · exact ⟨_, Host.text_child_of_nil hnil name⟩
    · exact ⟨_, Host.text_child hnil name⟩
  refine Host.obscured_of_long hfaults hnull hcall (hlong.trans ?_)
  obtain ⟨front, hfront⟩ := hfront
  have hchild : ∀ (q : FsPath) (n : String), (q.child n).names ≠ [] := fun q n =>
    List.append_ne_nil_of_right_ne_nil _ (List.cons_ne_nil _ _)
  rw [fileIn, Host.text_child (hchild _ _), Host.text_child (hchild _ _), hfront]
  simp only [String.toList_append, List.length_append]
  omega

/-! ### Searches after a configuration was saved -/

/-- Saving to the file of a directory that has one makes nothing, so that the same paths exist. -/
theorem exists?_of_save (hfaults : h.faults = []) (hexists : h.exists? (fileIn dir) = .ok true)
    (hsave : save h (fileIn dir) c = (.ok (), h')) (q : FsPath) : h'.exists? q = h.exists? q := by
  obtain ⟨h₁, hmake, hwrite⟩ := exists_of_save hsave
  have hparent : (fileIn dir).parent = dir.child dirName := by
    rw [fileIn, FsPath.child, FsPath.parent, List.dropLast_concat]
  have hdir : h.isDir (fileIn dir).parent = .ok true := by
    rw [hparent]
    refine Host.isDir_of_exists_child hfaults ?_ (by decide) hexists
    exact List.append_ne_nil_of_right_ne_nil _ (List.cons_ne_nil _ _)
  rw [Host.mkdirs_of_isDir hfaults hdir] at hmake
  obtain rfl := (Prod.mk.inj hmake).2
  exact Host.exists?_of_overwrite hfaults hexists hwrite q

/-- After a configuration was saved to the file that a search came to, that search finds the file.
-/
theorem findFrom_of_save (hfaults : h.faults = []) (hnearest : Nearest h start file)
    (hsave : save h file c = (.ok (), h')) : findFrom h' start = .ok (some file) := by
  refine firstExisting_eq_some.2 ?_
  cases hnearest with
  | found hfound =>
    obtain ⟨before, dir, after, hchain, hbefore, hexists, rfl⟩ := hfound
    have hkept := exists?_of_save hfaults hexists hsave
    refine ⟨before, dir, after, hchain, fun nearer hnearer => ?_, ?_, rfl⟩
    · rw [hkept, hbefore nearer hnearer]
    · rw [hkept, hexists]
  | fresh hnone =>
    -- The new file is in the first directory, where the search ends at once.
    obtain ⟨h₁, hmake, hwrite⟩ := exists_of_save hsave
    have hfaults₁ := (Host.isDir_of_mkdirs hfaults hmake).2
    exact ⟨[], start, start.ancestors, rfl, nofun, Host.exists?_of_writeFile hfaults₁ hwrite, rfl⟩

end Config

namespace ConfigStore

open Config (Nearest Vacant findFrom)
open FsPath (Between)

/-- The search from a directory ends at a file, and a configuration is loaded from there. -/
structure Leads (h : Host) (start file : FsPath) (c : Config) : Prop where
  find : Config.find h (some start) = .ok (some file)
  nearest : nearest h (some start) = .ok ⟨file, none⟩
  load : ConfigStore.load ⟨file, none⟩ h = (pure c, ⟨file, some c⟩)

/-- A configuration that was saved for a directory is found from there, and from below. -/
structure FoundAgain (h : Host) (start file : FsPath) (c : Config) : Prop where
  /-- It is found from the directory. -/
  here : Leads h start file c
  /-- It is found from all paths below from which neither a nearer file nor a name that is too long
  is met. -/
  below : ∀ inner, start ∈ inner.ancestors → Vacant h start inner →
    (∀ dir, Between start dir inner → ¬h.Obscured (Config.fileIn dir) Errno.nameTooLong) →
    Leads h inner file c
  /-- Where such a name is met, the search fails with it. -/
  fails : ∀ inner, start ∈ inner.ancestors → Vacant h start inner →
    (∃ dir, Between start dir inner ∧ h.Obscured (Config.fileIn dir) Errno.nameTooLong) →
    ∃ dir, Between start dir inner ∧ h.Obscured (Config.fileIn dir) Errno.nameTooLong ∧
      Config.find h (some inner) =
        .error (.system Errno.nameTooLong (some (Config.fileIn dir).text)) ∧
      nearest h (some inner) =
        .error (.system Errno.nameTooLong (some (Config.fileIn dir).text))

variable {h h' : Host} {start file : FsPath} {c : Config} {store saved : ConfigStore}

/-- A store that saves a configuration writes it to its file. -/
theorem writes_of_save (hsave : store.save h (some c) = (.ok (), h', saved)) :
    Config.save h store.file c = (.ok (), h') := by
  simp only [save, Option.some_or] at hsave
  split at hsave
  · next hwritten =>
    obtain ⟨-, hhost, -⟩ := Prod.mk.inj hsave |>.imp_right Prod.mk.inj
    rw [hwritten, hhost]
  · cases (Prod.mk.inj hsave).1

/-- A search that ends at a file leads to what is loaded from there. -/
theorem leads_of_findFrom (hfind : findFrom h start = .ok (some file))
    (hload : Config.load h file = pure c) : Leads h start file c where
  find := hfind
  nearest := by
    rw [nearest, Config.find, hfind]
    rfl
  load := by
    rw [load, hload]
    rfl

/-- A saved configuration is found again if its file is read as that configuration. -/
theorem foundAgain_of_save (hfaults : h.faults = []) (hnearest : Nearest h start file)
    (hsave : Config.save h file c = (.ok (), h'))
    (hparse : Config.parse h'.home? c.fileBytes = .ok c) : FoundAgain h' start file c := by
  have hfind := Config.findFrom_of_save hfaults hnearest hsave
  have hload := Config.load_of_save hfaults hsave hparse
  have hfaults' := Config.faults_of_save hfaults hsave
  refine ⟨leads_of_findFrom hfind hload, fun inner hinner hvacant hclear => ?_,
    fun inner hinner hvacant ⟨dir, hdir, hobscured⟩ => ?_⟩
  · rcases Config.findFrom_below hinner hvacant with ⟨hsame, -⟩ | ⟨dir, errno, hdir, hobscured, -⟩
    · exact leads_of_findFrom (hsame.trans hfind) hload
    · obtain rfl := hobscured.nameTooLong hfaults'
      exact absurd hobscured (hclear dir hdir)
  · rcases Config.findFrom_below hinner hvacant with
      ⟨-, hnone⟩ | ⟨dir', errno, hdir', hobscured', hfailed⟩
    · have herror := Host.exists?_eq_error.2 ⟨_, hobscured, rfl⟩
      cases (hnone dir hdir).symm.trans herror
    · obtain rfl := hobscured'.nameTooLong hfaults'
      refine ⟨dir', hdir', hobscured', hfailed, ?_⟩
      exact nearest_eq_error.2 (Config.findFrom_eq_error.1 hfailed)

/-- A configuration that was made of a document and saved to the file that the search from a
directory came to is found and loaded again, by searches from the directory and from all paths below
on which no nearer file is met; only a name that is too long makes such a search fail. Before it was
saved, the file was that of the nearest directory which had one, or a new one. -/
theorem saved_found_again {origin : Host} {text : String} {doc : Value}
    (hhome : ∀ dir, origin.home? = some dir → dir.isAbsolute = true)
    (hread : Json.read text = .ok doc) (hdoc : Config.ofDocument origin.home? doc = .ok c)
    (hfinite : ∀ x, c.service.timeout = some x → Json.Finite x)
    (hnumber : ∀ x, c.service.timeout = some x →
      Json.read (Decimal.Layout.document.render x) = .ok (.float x))
    (hfaults : h.faults = []) (hbuilt : nearest h (some start) = .ok store)
    (hsave : store.save h (some c) = (.ok (), h', saved)) :
    Nearest h start store.file ∧ FoundAgain h' start store.file c := by
  have hsettled : c.Settled :=
    Config.ofDocument_settled (fun _ => Host.home?_proper) hhome (Json.read_document hread) hdoc
  have hparse : Config.parse h'.home? c.fileBytes = .ok c :=
    Config.parse_fileBytes hsettled (fun x hx => ⟨hfinite x hx, hnumber x hx⟩) _
  have hnearest := (nearest_eq_ok.1 hbuilt).2
  exact ⟨hnearest, foundAgain_of_save hfaults hnearest (writes_of_save hsave) hparse⟩

/-- A host with an empty configuration file in a directory. -/
def claimedHost : Host :=
  { rootHost with
    disk := ⟨[(["w"], .dir 0o755), (["w", Config.dirName], .dir 0o755),
      (["w", Config.dirName, Config.fileName], .file (.bytes []) 0o644),
      (["w", "a"], .dir 0o755)]⟩ }

/-- A directory below that of the file. -/
def claimedStart : FsPath := ⟨.root, ["w", "a"]⟩

/-- The store of the file. -/
def claimedStore : ConfigStore := ⟨Config.fileIn ⟨.root, ["w"]⟩, none⟩

/-- There is a name that is too long. -/
theorem exists_longName : ∃ name, NullFree name ∧ Host.maxPathBytes ≤ name.toList.length := by
  refine ⟨String.ofList (List.replicate Host.maxPathBytes 'b'), ?_, ?_⟩
  · rw [NullFree, String.toList_ofList]
    exact fun hmem => absurd (List.eq_of_mem_replicate hmem) (by decide)
  · rw [String.toList_ofList, List.length_replicate]

/-- A configuration is saved from below the directory of its file, and found again from there and
from an entry, but not from an entry whose name is too long. -/
theorem saved_found_again_claimed :
    ∃ h' saved, nearest claimedHost (some claimedStart) = .ok claimedStore ∧
      claimedStore.save claimedHost (some tildeConfig) = (.ok (), h', saved) ∧
      (Nearest claimedHost claimedStart claimedStore.file ∧
        FoundAgain h' claimedStart claimedStore.file tildeConfig) ∧
      Leads h' (claimedStart.child "b") claimedStore.file tildeConfig ∧
      ∃ name dir, nearest h' (some (claimedStart.child name)) =
        .error (.system Errno.nameTooLong (some (Config.fileIn dir).text)) := by
  have hread : Json.read (Json.compact tildeDocument) = .ok tildeDocument :=
    Json.read_compact writable_tildeDocument
  have hdoc : Config.ofDocument claimedHost.home? tildeDocument = .ok tildeConfig := by rfl
  have hhome : ∀ dir, claimedHost.home? = some dir → dir.isAbsolute = true := by
    rintro dir ⟨⟩
    rfl
  have htimeout : ∀ x, tildeConfig.service.timeout = some x →
      Json.Finite x ∧ Json.read (Decimal.Layout.document.render x) = .ok (.float x) := by
    rintro x ⟨⟩
    exact ⟨⟨_, _, _, rfl⟩, rfl⟩
  have hbuilt : nearest claimedHost (some claimedStart) = .ok claimedStore := by rfl
  obtain ⟨h', saved, hsave⟩ : ∃ h' saved,
      claimedStore.save claimedHost (some tildeConfig) = (.ok (), h', saved) :=
    ⟨_, _, Prod.ext (by rfl) rfl⟩
  have hagain := saved_found_again hhome hread hdoc (fun x hx => (htimeout x hx).1)
    (fun x hx => (htimeout x hx).2) rfl hbuilt hsave
  -- Nothing but the content of the file has changed.
  have hwritten := writes_of_save hsave
  have hkept := Config.exists?_of_save rfl (by rfl) hwritten
  have hbelow := FsPath.mem_ancestors_child claimedStart
  refine ⟨h', saved, hbuilt, hsave, hagain, ?_, ?_⟩
  · have hnone : h'.exists? (Config.fileIn (claimedStart.child "b")) = .ok false :=
      (hkept _).trans (by rfl)
    have hvacant := Config.vacant_child.2 (by rw [hnone]; nofun)
    refine hagain.2.below _ (hbelow "b") hvacant fun dir hdir hobscured => ?_
    rw [FsPath.between_child.1 hdir] at hobscured
    cases hnone.symm.trans (Host.exists?_eq_error.2 ⟨_, hobscured, rfl⟩)
  · obtain ⟨name, hname, hlong⟩ := exists_longName
    have habsolute : claimedStart.isAbsolute = true := rfl
    have hobscured := Config.obscured_of_longName (Config.faults_of_save rfl hwritten) habsolute
      (by decide) hname hlong
    have hvacant := Config.vacant_child.2
      (by rw [Host.exists?_eq_error.2 ⟨_, hobscured, rfl⟩]; nofun)
    obtain ⟨dir, -, -, -, hfailed⟩ := hagain.2.fails _ (hbelow name) hvacant
      ⟨_, FsPath.between_child.2 rfl, hobscured⟩
    exact ⟨name, dir, hfailed⟩

end ConfigStore

end IndexSync
