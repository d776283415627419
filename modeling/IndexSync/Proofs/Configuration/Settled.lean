import IndexSync.Config.File
import IndexSync.Proofs.Documents.Image
import IndexSync.Proofs.PathText
import IndexSync.Proofs.Validation
import Mathlib.Data.List.DropRight

/-!
# Settled configurations

Checking configuration data changes it: patterns are stripped and blank ones dropped, a tilde is
replaced by the home directory, paths are tidied, and numbers are read from texts. What comes out is
settled: checked once more, in the form of a document, it does not change, whatever the home
directory then is.

* `Config.Settled` — a configuration that does not change when it is checked;
* `Config.ofDocument_settled` — what is made of a document is settled.
-/

namespace IndexSync

/-! ### Texts without blanks around them -/

namespace Text

variable {cls : Char → Bool}

theorem head?_dropWhile_eq_false {cs : List Char} {c : Char}
    (h : (cs.dropWhile cls).head? = some c) : cls c = false := by
  have hhead := List.head?_dropWhile_not cls cs
  rw [h] at hhead
  simpa using hhead

/-- Nothing is dropped in front of another character. -/
theorem dropWhile_eq_self {cs : List Char} (h : ∀ c, cs.head? = some c → cls c = false) :
    cs.dropWhile cls = cs := by
  cases cs with
  | nil => rfl
  | cons c cs => rw [List.dropWhile_cons_of_neg (by simp [h c rfl])]

/-- What is trimmed does not start with a character of the class. -/
theorem dropWhile_trimList (cls : Char → Bool) (cs : List Char) :
    (trimList cls cs).dropWhile cls = trimList cls cs := by
  have hprefix : trimList cls cs <+: cs.dropWhile cls := by
    rw [← List.reverse_suffix, trimList, List.reverse_reverse]
    exact List.dropWhile_suffix cls
  refine dropWhile_eq_self fun c hc => ?_
  obtain ⟨more, hmore⟩ := hprefix
  have hhead : (cs.dropWhile cls).head? = some c := by
    rw [← hmore, List.head?_append, hc, Option.some_or]
  exact head?_dropWhile_eq_false hhead

/-- Trimming once is enough. -/
theorem trimList_trimList (cls : Char → Bool) (cs : List Char) :
    trimList cls (trimList cls cs) = trimList cls cs := by
  conv_lhs => rw [trimList, dropWhile_trimList]
  rw [trimList, List.reverse_reverse, List.dropWhile_idempotent]

/-- Stripping once is enough. -/
theorem strip_strip (s : String) : strip (strip s) = strip s := by
  simp [strip, trim, trimList_trimList]

/-- The fields of a list whose members are replaced one by one. -/
theorem fields_map {α β : Type} [DecidableEq α] [DecidableEq β] {f : α → β}
    (hf : Function.Injective f) (sep : α) (cs : List α) :
    fields (f sep) (cs.map f) = (fields sep cs).map (List.map f) := by
  induction cs with
  | nil => rfl
  | cons c cs ih =>
    rw [List.map_cons, fields, fields, ih]
    by_cases hc : c = sep
    · simp [hc]
    · rw [if_neg (hf.ne hc), if_neg hc]
      cases fields sep cs <;> rfl

end Text

/-! ### Paths without a home directory -/

namespace FsPath

/-- The path starts at the home directory of some user. -/
def StartsAtHome (p : FsPath) : Prop :=
  p.anchor = .relative ∧ ∃ user rest, p.names = String.ofList ('~' :: user) :: rest

/-- An absolute path does not start at a home directory. -/
theorem not_startsAtHome_of_isAbsolute {p : FsPath} (h : p.isAbsolute = true) :
    ¬p.StartsAtHome := by
  rintro ⟨hrelative, -⟩
  simp only [isAbsolute, bne_iff_ne] at h
  exact h hrelative

/-- A path that does not start at a home directory is not expanded. -/
theorem expandHome?_eq_self {p : FsPath} (h : ¬p.StartsAtHome) (home : Option FsPath) :
    p.expandHome? home = some p := by
  obtain ⟨anchor, names⟩ := p
  unfold expandHome?
  split
  · next first rest hanchor hnames =>
    have hfirst : ∀ user, first.toList ≠ '~' :: user := fun user heq =>
      h ⟨hanchor, user, rest, by rw [hnames, ← heq, String.ofList_toList]⟩
    split
    · next heq => exact absurd heq (hfirst [])
    · next heq => exact absurd heq (hfirst _)
    · rfl
  · rfl

/-- An expanded path does not start at a home directory, if that is absolute. -/
theorem not_startsAtHome_of_expandHome? {home : Option FsPath} {p q : FsPath}
    (hhome : ∀ dir, home = some dir → dir.isAbsolute = true) (h : p.expandHome? home = some q) :
    ¬q.StartsAtHome := by
  unfold expandHome? at h
  split at h
  · next first rest hanchor hnames =>
    split at h
    · obtain ⟨dir, hdir, rfl⟩ := Option.map_eq_some_iff.1 h
      exact not_startsAtHome_of_isAbsolute (hhome dir hdir)
    · cases h
    · next hother =>
      obtain rfl := Option.some.inj h
      rintro ⟨-, user, rest', hstart⟩
      rw [hnames] at hstart
      exact hother user (by rw [(List.cons.inj hstart).1, String.toList_ofList])
  · next hother =>
    obtain rfl := Option.some.inj h
    rintro ⟨hrelative, user, rest, hnames⟩
    exact hother _ _ hrelative hnames

/-- An expanded path is proper, if the path and the home directory are. -/
theorem Proper.expandHome? {home : Option FsPath} {p q : FsPath} (hp : p.Proper)
    (hhome : ∀ dir, home = some dir → dir.Proper) (h : p.expandHome? home = some q) :
    q.Proper := by
  unfold FsPath.expandHome? at h
  split at h
  · next first rest hanchor hnames =>
    split at h
    · obtain ⟨dir, hdir, rfl⟩ := Option.map_eq_some_iff.1 h
      exact (hhome dir hdir).append fun name hname =>
        hp name (hnames ▸ List.mem_cons_of_mem _ hname)
    · cases h
    · exact Option.some.inj h ▸ hp
  · exact Option.some.inj h ▸ hp

end FsPath

/-- The home directory of a host is a proper path. -/
theorem Host.home?_proper {h : Host} {dir : FsPath} (hhome : h.home? = some dir) : dir.Proper := by
  unfold home? at hhome
  split at hhome
  · cases hhome
  · split at hhome
    · obtain rfl := Option.some.inj hhome
      exact nofun
    · cases hhome
    · obtain rfl := Option.some.inj hhome
      exact FsPath.parse_proper _

namespace Config

open FsPath (StartsAtHome)
open Json (Document Sized)

/-- No user is named by what starts with a slash. -/
theorem userOf?_slash (codes : Text.CodePoints) : userOf? ('/'.toNat :: codes) = none := by
  simp [userOf?]

/-- The user that proper names start with, if their first one is a tilde and a user. -/
theorem userOf?_names {first : String} {rest : List String}
    (hp : ∀ name ∈ first :: rest, FsPath.ProperName name)
    (h : ∀ user, first.toList ≠ '~' :: user) :
    userOf? ((Text.joinFields '/' ((first :: rest).map String.toList)).map Char.toNat) = none := by
  have hinjective : Function.Injective Char.toNat := fun c d heq => Char.toNat_inj.1 heq
  have hsep : ∀ part ∈ (first :: rest).map String.toList, '/' ∉ part := by
    intro part hpart
    obtain ⟨name, hname, rfl⟩ := List.mem_map.1 hpart
    exact (hp name hname).2
  -- The parts of the text are the names, as no name has a slash.
  have hfields : Text.fields '/'.toNat
      ((Text.joinFields '/' ((first :: rest).map String.toList)).map Char.toNat) =
      (first :: rest).map fun name => name.toList.map Char.toNat := by
    rw [Text.fields_map hinjective, Text.fields_joinFields (by simp) hsep, List.map_map]
    rfl
  obtain ⟨hname, -⟩ := hp first List.mem_cons_self
  unfold userOf?
  rw [hfields]
  cases hfirst : first.toList with
  | nil => simp [FsPath.isName, hfirst] at hname
  | cons c tail =>
    have hc : c ≠ '~' := fun heq => h tail (by rw [hfirst, heq])
    have hc' : c.toNat ≠ '~'.toNat := hinjective.ne hc
    -- A proper name is not a dot, so the first part is not dropped.
    have hdot : (c.toNat :: tail.map Char.toNat == ['.'.toNat]) = false := by
      cases heq : (c.toNat :: tail.map Char.toNat == ['.'.toNat]) with
      | false => rfl
      | true =>
        have hmap : (c :: tail).map Char.toNat = ['.'].map Char.toNat := by simpa using heq
        simp [FsPath.isName, hfirst, List.map_injective_iff.2 hinjective hmap] at hname
    simp only [List.map_cons, hfirst]
    rw [List.filter_cons_of_pos (by rw [hdot]; rfl)]
    split
    · next heq =>
      rw [if_neg ((List.cons.inj (List.cons.inj heq).1).1 ▸ hc')]
    · rfl

/-- The text of a proper path names no user, unless the path starts at a home directory. -/
theorem userOf?_text {p : FsPath} (hp : p.Proper) (h : ¬p.StartsAtHome) :
    userOf? (Text.codePoints p.text) = none := by
  obtain ⟨anchor, names⟩ := p
  cases anchor with
  | root =>
    simp only [FsPath.text, Anchor.text, Text.codePoints, reduceCtorEq, false_and, ↓reduceIte,
      String.toList_append, List.map_append]
    exact userOf?_slash _
  | doubleRoot =>
    simp only [FsPath.text, Anchor.text, Text.codePoints, reduceCtorEq, false_and, ↓reduceIte,
      String.toList_append, List.map_append]
    exact userOf?_slash _
  | relative =>
    cases names with
    | nil => rfl
    | cons first rest =>
      rw [FsPath.text, if_neg (by simp), Text.codePoints, String.toList_append, Text.joinText,
        String.toList_ofList]
      refine userOf?_names hp fun user heq => h ⟨rfl, user, rest, ?_⟩
      rw [← heq, String.ofList_toList]

/-! ### Settled configurations -/

/-- The whole numbers of a configuration. -/
def integers (c : Config) : List Int :=
  [c.polling.maxAttempts, c.polling.warmup, c.polling.pingInterval, c.polling.discoveryInterval,
   c.polling.registryAttempts, c.polling.registryInterval, c.index.minSize]

/-- A configuration that does not change when it is checked. -/
structure Settled (c : Config) : Prop where
  polling : c.polling.Valid
  sized : ∀ n ∈ c.integers, Sized n
  patterns : c.project.patterns ≠ []
  stripped : ∀ s ∈ c.project.patterns, Text.strip s = s ∧ s ≠ ""
  dir : c.index.dir.Proper
  expanded : ¬c.index.dir.StartsAtHome
  socket : ∀ p, c.service.socket = some p → p.Proper

/-- Integers of up to nineteen digits can be read. -/
theorem sized_of_lt {n : Int} (h : n.natAbs < 10 ^ 19) : Sized n :=
  Nat.lt_of_lt_of_le h (Nat.pow_le_pow_right (by decide) (by decide))

/-- A plain integer is not too long to be read. -/
theorem sized_of_read {cs : List Char} {n : Int} (h : PlainInteger.read cs = .number n) :
    Sized n := by
  unfold PlainInteger.read at h
  dsimp only at h
  split at h
  · cases h
  split at h
  · cases h
    exact sized_of_lt (by decide)
  split at h
  · cases h
  split at h
  · cases h
  -- All digits are decimal ones, and there are no more of them than the reader allows.
  next hlength =>
  split at h
  · cases h
  obtain rfl := PlainInteger.number.inj h
  refine Json.sized_signed (Nat.lt_of_lt_of_le (Text.ofDigits_lt fun d hd => ?_)
    (Nat.pow_le_pow_right (by decide) ?_)) _
  · obtain ⟨c, -, hc⟩ := List.mem_filterMap.1 hd
    unfold Text.asciiDigit? at hc
    split at hc
    · next hdigit =>
      obtain rfl := Option.some.inj hc
      have hhigh : c.toNat ≤ 0x39 := hdigit.2
      omega
    · cases hc
  · have hdigits := List.length_filterMap_le Text.asciiDigit?
      (List.takeWhile Char.isDigit (cs.drop (cs.takeWhile (· == '-')).length))
    omega

/-- The integer of a text is not too long to be read. -/
theorem sized_of_readInteger {s : String} {n : Int} (h : readInteger s = .number n) : Sized n := by
  unfold readInteger at h
  split at h
  · split at h
    · next hread =>
      obtain rfl := PlainInteger.number.inj h
      obtain ⟨cs, -, hcs⟩ := Option.map_eq_some_iff.1 hread
      exact sized_of_read hcs
    · cases h
  · exact sized_of_read h

/-- The integer that a datum of a document stands for is not too long to be read. -/
theorem sized_of_integerOf {given : Value} {n : Int} (hgiven : Document given)
    (h : integerOf given = .ok n) : Sized n := by
  unfold integerOf at h
  split at h
  · cases h
    cases hgiven with
    | int hn => exact hn
  · cases h
    split <;> exact sized_of_lt (by decide)
  · cases h
  · cases h
  · -- An integral float is below a bound of its own.
    split at h
    · cases h
    · split at h
      · next hbound =>
        cases h
        refine sized_of_lt ?_
        simp only [floatBound] at hbound
        omega
      · cases h
  · split at h
    · next hread =>
      cases h
      exact sized_of_readInteger hread
    · cases h
    · cases h
  · cases h
  · cases h

/-- A checked integer of a document is not too long to be read. -/
theorem sized_of_checkInteger {rule : Int → Option Rule} {place : List Step} {given : Value}
    {n : Int} (hgiven : Document given) (h : checkInteger rule place given = .ok n) : Sized n := by
  simp only [checkInteger] at h
  split at h
  · cases h
  · next hinteger =>
    split at h
    · cases h
    · obtain rfl := Except.ok.inj h
      exact sized_of_integerOf hgiven hinteger

/-- The section of a document's data is data of the document. -/
theorem document_of_sectionOf {data entries : Entries} {name typeName : String}
    (hdata : ∀ e ∈ data, Document e.2) (h : sectionOf data name typeName = .ok entries) :
    ∀ e ∈ entries, Document e.2 := by
  unfold sectionOf at h
  split at h
  · obtain rfl := Except.ok.inj h
    exact nofun
  · next hlookup =>
    obtain rfl := Except.ok.inj h
    cases Document.lookup? hdata hlookup with
    | map hentries => exact hentries
  · cases h

/-- A setting is its default or what is made of a datum of the document. -/
theorem setting_cases {α : Type} {entries : Entries} {place : List Step} {name : String}
    {default a : α} {check : List Step → Value → Checked α} (hentries : ∀ e ∈ entries, Document e.2)
    (h : setting entries place name default check = .ok a) :
    a = default ∨ ∃ given, Document given ∧ check (place ++ [.field name]) given = .ok a := by
  unfold setting at h
  split at h
  · next given hlookup => exact .inr ⟨given, Document.lookup? hentries hlookup, h⟩
  · exact .inl (Except.ok.inj h).symm

/-- A setting that is an integer is not too long to be read. -/
theorem sized_of_setting {rule : Int → Option Rule} {entries : Entries} {place : List Step}
    {name : String} {default n : Int} (hentries : ∀ e ∈ entries, Document e.2)
    (hdefault : default.natAbs < 10 ^ 19)
    (h : setting entries place name default (checkInteger rule) = .ok n) : Sized n := by
  rcases setting_cases hentries h with rfl | ⟨given, hgiven, hcheck⟩
  · exact sized_of_lt hdefault
  · exact sized_of_checkInteger hgiven hcheck

/-- Checked settings of polling are not too long to be read. -/
theorem checkPolling_sized {data : Entries} {p : Polling} (hdata : ∀ e ∈ data, Document e.2)
    (h : checkPolling data = .ok p) :
    ∀ n ∈ [p.maxAttempts, p.warmup, p.pingInterval, p.discoveryInterval, p.registryAttempts,
      p.registryInterval], Sized n := by
  obtain ⟨entries, hsection, h⟩ := exists_of_bind_eq_ok h
  obtain ⟨⟨maxAttempts, warmup, pingInterval, discoveryInterval, registryAttempts,
    registryInterval⟩, hchecked, h⟩ := exists_of_bind_eq_ok h
  obtain rfl := Except.ok.inj h
  simp only [Checked.both_eq_ok] at hchecked
  obtain ⟨h₁, h₂, h₃, h₄, h₅, h₆⟩ := hchecked
  have hentries := document_of_sectionOf hdata hsection
  simp only [List.forall_mem_cons]
  exact ⟨sized_of_setting hentries (by decide) h₁, sized_of_setting hentries (by decide) h₂,
    sized_of_setting hentries (by decide) h₃, sized_of_setting hentries (by decide) h₄,
    sized_of_setting hentries (by decide) h₅, sized_of_setting hentries (by decide) h₆, nofun⟩

/-- Patterns that are left over are stripped and not blank. -/
theorem stripped_of_mem {texts : List String} {s : String} (h : s ∈ usefulPatterns texts) :
    Text.strip s = s ∧ s ≠ "" := by
  obtain ⟨hmem, hne⟩ := List.mem_filter.1 h
  obtain ⟨text, -, rfl⟩ := List.mem_map.1 hmem
  exact ⟨Text.strip_strip text, by simpa using hne⟩

/-- Checked patterns are useful ones, and there is one. -/
theorem checkPatterns_useful {place : List Step} {given : Value} {patterns : List String}
    (h : checkPatterns place given = .ok patterns) :
    patterns ≠ [] ∧ ∀ s ∈ patterns, Text.strip s = s ∧ s ≠ "" := by
  unfold checkPatterns at h
  split at h
  · cases h
  · next texts _ =>
    split at h
    · cases h
    · next hne =>
      obtain rfl := Except.ok.inj h
      exact ⟨hne, fun s hs => stripped_of_mem hs⟩

/-- Checked settings of project recognition are useful patterns. -/
theorem checkDiscovery_useful {data : Entries} {p : Discovery} (h : checkDiscovery data = .ok p) :
    p.patterns ≠ [] ∧ ∀ s ∈ p.patterns, Text.strip s = s ∧ s ≠ "" := by
  obtain ⟨entries, -, h⟩ := exists_of_bind_eq_ok h
  obtain ⟨patterns, hpatterns, h⟩ := exists_of_bind_eq_ok h
  obtain rfl := Except.ok.inj h
  unfold setting at hpatterns
  split at hpatterns
  · exact checkPatterns_useful hpatterns
  · obtain rfl := Except.ok.inj hpatterns
    refine ⟨by decide, List.forall_mem_singleton.2 ?_⟩
    decide

/-- A checked path of a document is proper. -/
theorem checkPath_proper {place : List Step} {given : Value} {socket : Option FsPath}
    (hgiven : Document given) (h : checkPath place given = .ok socket) :
    ∀ p, socket = some p → p.Proper := by
  rintro p rfl
  cases hgiven with
  | str s => exact Option.some.inj (Except.ok.inj h) ▸ FsPath.parse_proper _
  | unpaired codes => exact Option.some.inj (Except.ok.inj h) ▸ FsPath.parse_proper _
  | _ => cases h

/-- The checked socket of a service is proper. -/
theorem checkService_proper {data : Entries} {service : Service}
    (hdata : ∀ e ∈ data, Document e.2) (h : checkService data = .ok service) :
    ∀ p, service.socket = some p → p.Proper := by
  obtain ⟨entries, hsection, h⟩ := exists_of_bind_eq_ok h
  obtain ⟨⟨command, socket, timeout⟩, hchecked, h⟩ := exists_of_bind_eq_ok h
  obtain rfl := Except.ok.inj h
  simp only [Checked.both_eq_ok] at hchecked
  rcases setting_cases (document_of_sectionOf hdata hsection) hchecked.2.1 with
    hdefault | ⟨given, hgiven, hcheck⟩
  · rintro p hp
    cases hdefault.symm.trans hp
  · exact checkPath_proper hgiven hcheck

/-- A known directory is the one that was looked for. -/
theorem knownDir_eq_ok {p : Option FsPath} {dir : FsPath} (h : knownDir p = .ok (.ok dir)) :
    p = some dir := by
  cases p with
  | none => cases h
  | some p => exact congrArg some (Except.ok.inj (Except.ok.inj h))

/-- A directory that was given as a text is proper and does not start at a home directory. -/
theorem checkWrittenDir_settled {home : Option FsPath} {codes : Text.CodePoints} {given : Value}
    {dir : FsPath} (hproper : ∀ p, home = some p → p.Proper)
    (habsolute : ∀ p, home = some p → p.isAbsolute = true)
    (h : checkWrittenDir home codes given = .ok (.ok dir)) : dir.Proper ∧ ¬dir.StartsAtHome := by
  unfold checkWrittenDir at h
  split at h
  · cases h
  · have hexpand := knownDir_eq_ok h
    exact ⟨(FsPath.parse_proper _).expandHome? hproper hexpand,
      FsPath.not_startsAtHome_of_expandHome? habsolute hexpand⟩

/-- A checked directory of the indexes is proper and does not start at a home directory. -/
theorem checkIndexDir_settled {home : Option FsPath} {entries : Entries} {dir : FsPath}
    (hproper : ∀ p, home = some p → p.Proper) (habsolute : ∀ p, home = some p → p.isAbsolute = true)
    (hentries : ∀ e ∈ entries, Document e.2) (h : checkIndexDir home entries = .ok (.ok dir)) :
    dir.Proper ∧ ¬dir.StartsAtHome := by
  unfold checkIndexDir at h
  split at h
  · obtain ⟨p, hhome, rfl⟩ := Option.map_eq_some_iff.1 (knownDir_eq_ok h)
    exact ⟨(hproper p hhome).append (by decide),
      FsPath.not_startsAtHome_of_isAbsolute (habsolute p hhome)⟩
  · exact checkWrittenDir_settled hproper habsolute h
  · exact checkWrittenDir_settled hproper habsolute h
  · next hlookup => cases Document.lookup? hentries hlookup
  · cases h

/-- The checked section on indexes. -/
theorem checkIndex_settled {home : Option FsPath} {data : Entries} {index : Index}
    (hproper : ∀ p, home = some p → p.Proper) (habsolute : ∀ p, home = some p → p.isAbsolute = true)
    (hdata : ∀ e ∈ data, Document e.2) (h : checkIndex home data = .ok (.ok index)) :
    Sized index.minSize ∧ index.dir.Proper ∧ ¬index.dir.StartsAtHome := by
  unfold checkIndex at h
  split at h
  · cases h
  · next entries hsection =>
    have hentries := document_of_sectionOf hdata hsection
    obtain ⟨dir, hdir, h⟩ := exists_of_bind_eq_ok h
    have h := Except.ok.inj h
    generalize hminSize : setting entries _ _ _ _ = minSize at h
    cases minSize with
    | error vs => cases dir <;> cases h
    | ok n =>
      cases dir with
      | error vs => cases h
      | ok dir =>
        obtain rfl := Except.ok.inj h
        exact ⟨sized_of_setting hentries (by decide) hminSize,
          checkIndexDir_settled hproper habsolute hentries hdir⟩

/-- A document that describes a configuration is a mapping that the configuration is made of. -/
theorem exists_of_ofDocument {home : Option FsPath} {doc : Value} {c : Config}
    (h : ofDocument home doc = .ok c) : ∃ data, doc = .map data ∧ ofEntries home data = .ok c := by
  unfold ofDocument at h
  split at h
  · next data =>
    split at h
    · next hentries =>
      obtain rfl := Except.ok.inj h
      exact ⟨data, rfl, hentries⟩
    · cases h
    · cases h
  · cases h

/-- A configuration that was made of a document with an absolute home directory is settled. -/
theorem ofDocument_settled {home : Option FsPath} {doc : Value} {c : Config}
    (hproper : ∀ p, home = some p → p.Proper) (habsolute : ∀ p, home = some p → p.isAbsolute = true)
    (hdoc : Document doc) (h : ofDocument home doc = .ok c) : c.Settled := by
  obtain ⟨data, rfl, hentries⟩ := exists_of_ofDocument h
  cases hdoc with
  | map hdata =>
    obtain ⟨hpolling, hindex, hproject, hservice⟩ := sections_of_ofEntries hentries
    obtain ⟨hminSize, hdir, hexpanded⟩ := checkIndex_settled hproper habsolute hdata hindex
    obtain ⟨hpatterns, hstripped⟩ := checkDiscovery_useful hproject
    exact {
      polling := checkPolling_valid hpolling
      sized := by
        have hsized := checkPolling_sized hdata hpolling
        simp only [List.forall_mem_cons] at hsized
        simp only [integers, List.forall_mem_cons]
        obtain ⟨h₁, h₂, h₃, h₄, h₅, h₆, -⟩ := hsized
        exact ⟨h₁, h₂, h₃, h₄, h₅, h₆, hminSize, nofun⟩
      patterns := hpatterns
      stripped := hstripped
      dir := hdir
      expanded := hexpanded
      socket := checkService_proper hdata hservice }

end Config

end IndexSync
