import IndexSync.Proofs.Documents.Numerals
import IndexSync.World

/-!
# The settings that version control reads

Settings are passed to the version control program in numbered pairs of variables, next to a
variable that holds their number. One setting, which makes a directory a safe one, is put in front
of those that are there.

* `Git.Reads` — the settings that the program reads in an environment;
* `Git.environment_extends` — the environment with the setting in front, variable by variable;
* `Git.inEffect_iff` — when the setting is among those that are read.
-/

namespace IndexSync.Git

variable {env source : Env} {dir : FsPath} {i j n : Nat} {name : String}

/-! ### The variables of settings -/

theorem keyVariable_inj : keyVariable i = keyVariable j ↔ i = j := by
  unfold keyVariable
  exact (String.append_right_inj _).trans Text.toString_inj

theorem valueVariable_inj : valueVariable i = valueVariable j ↔ i = j := by
  unfold valueVariable
  exact (String.append_right_inj _).trans Text.toString_inj

/-- The character in which the names of the variables differ. -/
def mark? (name : String) : Option Char := name.toList[11]?

theorem mark?_keyVariable (i : Nat) : mark? (keyVariable i) = some 'K' := by
  unfold mark? keyVariable
  simp only [String.toList_append, String.reduceToList, List.cons_append, List.getElem?_cons_succ,
    List.getElem?_cons_zero]

theorem mark?_valueVariable (i : Nat) : mark? (valueVariable i) = some 'V' := by
  unfold mark? valueVariable
  simp only [String.toList_append, String.reduceToList, List.cons_append, List.getElem?_cons_succ,
    List.getElem?_cons_zero]

theorem mark?_countVariable : mark? countVariable = some 'C' := by decide

theorem keyVariable_ne_valueVariable (i j : Nat) : keyVariable i ≠ valueVariable j := by
  intro heq
  have hmark := congrArg mark? heq
  rw [mark?_keyVariable, mark?_valueVariable] at hmark
  cases hmark

theorem keyVariable_ne_countVariable (i : Nat) : keyVariable i ≠ countVariable := by
  intro heq
  have hmark := congrArg mark? heq
  rw [mark?_keyVariable, mark?_countVariable] at hmark
  cases hmark

theorem valueVariable_ne_countVariable (i : Nat) : valueVariable i ≠ countVariable := by
  intro heq
  have hmark := congrArg mark? heq
  rw [mark?_valueVariable, mark?_countVariable] at hmark
  cases hmark

/-- The variables of a setting. -/
def IsVariableOf (name : String) (i : Nat) : Prop := name = keyVariable i ∨ name = valueVariable i

/-- Different settings have different variables. -/
theorem IsVariableOf.unique (hi : IsVariableOf name i) (hj : IsVariableOf name j) : i = j := by
  rcases hi with rfl | rfl
  · rcases hj with heq | heq
    · exact keyVariable_inj.1 heq
    · exact absurd heq (keyVariable_ne_valueVariable i j)
  · rcases hj with heq | heq
    · exact absurd heq.symm (keyVariable_ne_valueVariable j i)
    · exact valueVariable_inj.1 heq

theorem IsVariableOf.ne_countVariable (h : IsVariableOf name i) : name ≠ countVariable := by
  rcases h with rfl | rfl
  · exact keyVariable_ne_countVariable i
  · exact valueVariable_ne_countVariable i

/-! ### Single settings -/

theorem setting?_eq_some {key value : String} : setting? env i = some (key, value) ↔
    env.get? (keyVariable i) = some key ∧ env.get? (valueVariable i) = some value := by
  unfold setting?
  cases env.get? (keyVariable i) with
  | none => simp
  | some k => cases env.get? (valueVariable i) with
    | none => simp
    | some v => simp

/-- A setting is told by its two variables. -/
theorem setting?_congr {env' : Env}
    (h : ∀ name, IsVariableOf name i → env'.get? name = env.get? name) :
    setting? env' i = setting? env i := by
  rw [setting?, setting?, h _ (Or.inl rfl), h _ (Or.inr rfl)]

theorem setting?_putSetting (env : Env) (i : Nat) (key value : String) :
    setting? (putSetting env i key value) i = some (key, value) := by
  rw [setting?_eq_some, putSetting, Env.get?_set, Env.get?_set, Env.get?_set, if_pos rfl,
    if_neg (keyVariable_ne_valueVariable i i), if_pos rfl]
  exact ⟨rfl, rfl⟩

/-- Writing a setting leaves all other variables as they are. -/
theorem get?_putSetting (env : Env) (key value : String) (h : ¬IsVariableOf name i) :
    (putSetting env i key value).get? name = env.get? name := by
  rw [IsVariableOf, not_or] at h
  rw [putSetting, Env.get?_set, Env.get?_set, if_neg h.2, if_neg h.1]

/-! ### Settings that move up -/

/-- The first `n` settings of an environment were written one number higher, and no other variable
was changed. Of a setting that is not complete, nothing was written. -/
structure Shifted (source : Env) (n : Nat) (env : Env) : Prop where
  moved : ∀ i < n, ∀ setting, setting? source i = some setting → setting? env (i + 1) = some setting
  kept : ∀ name, (∀ i < n, (setting? source i).isSome = true → ¬IsVariableOf name (i + 1)) →
    env.get? name = source.get? name

/-- One more setting is written. -/
theorem Shifted.step (h : Shifted source n env) :
    Shifted source (n + 1) (shiftSetting source env n) := by
  unfold shiftSetting
  cases hsetting : setting? source n with
  | none =>
    -- Nothing is written, and there is no setting that should have been.
    refine ⟨fun i hi setting hsome => ?_,
      fun name hname => h.kept name fun i hi => hname i (by omega)⟩
    rcases Nat.lt_succ_iff_lt_or_eq.1 hi with hi | rfl
    · exact h.moved i hi setting hsome
    · cases hsetting.symm.trans hsome
  | some pair =>
    obtain ⟨key, value⟩ := pair
    refine ⟨fun i hi setting hsome => ?_, fun name hname => ?_⟩
    · rcases Nat.lt_succ_iff_lt_or_eq.1 hi with hi | rfl
      · -- What was written before has variables of its own.
        rw [← h.moved i hi setting hsome]
        refine setting?_congr fun name hname => get?_putSetting env key value fun hname' => ?_
        have heq := hname.unique hname'
        omega
      · rw [setting?_putSetting, ← hsome, hsetting]
    · rw [get?_putSetting env key value (hname n (Nat.lt_succ_self n) (by rw [hsetting]; rfl))]
      exact h.kept name fun i hi => hname i (by omega)

/-- All announced settings move up. The induction is on their number. -/
theorem shifted_foldl (source : Env) (n : Nat) :
    Shifted source n ((List.range n).foldl (shiftSetting source) source) := by
  induction n with
  | zero => exact ⟨fun i hi => absurd hi (Nat.not_lt_zero i), fun _ _ => rfl⟩
  | succ n ih =>
    rw [List.range_succ, List.foldl_append]
    exact ih.step

/-! ### One more setting in front -/

/-- The settings that the version control program reads in an environment: as many as are announced,
by their numbers. -/
structure Reads (env : Env) (settings : List (String × String)) : Prop where
  count : env.get? countVariable = some (toString settings.length)
  numbered : ∀ (i : Nat) (hi : i < settings.length), setting? env i = some settings[i]

/-- An environment with the setting that makes a directory safe in front of those of another one. -/
structure Extends (env : Env) (dir : FsPath) (out : Env) : Prop where
  /-- One more setting is announced. -/
  count : out.get? countVariable = some (toString (settingCount env + 1))
  /-- The first setting is the new one. -/
  first : out.get? (keyVariable 0) = some "safe.directory" ∧
    out.get? (valueVariable 0) = some dir.text
  /-- Announced settings with a name and a value move up by one. -/
  moved : ∀ (i : Nat) (key value : String), i < settingCount env →
    env.get? (keyVariable i) = some key → env.get? (valueVariable i) = some value →
      out.get? (keyVariable (i + 1)) = some key ∧ out.get? (valueVariable (i + 1)) = some value
  /-- All other variables are as they were. -/
  kept : ∀ name, name ≠ countVariable → ¬IsVariableOf name 0 →
    (∀ i : Nat, i < settingCount env → (setting? env i).isSome = true →
      ¬IsVariableOf name (i + 1)) → out.get? name = env.get? name
  /-- If no announced setting is incomplete, the program reads the new one and then all of them, in
  their order. -/
  reads : ∀ settings : List (String × String), settings.length = settingCount env →
    (∀ (i : Nat) (hi : i < settings.length), setting? env i = some settings[i]) →
      Reads out (("safe.directory", dir.text) :: settings)

/-- All but the last two steps of the way to the environment. -/
theorem shifted_shiftSettings (env : Env) :
    Shifted env (settingCount env).toNat (shiftSettings env) := shifted_foldl env _

theorem get?_environment (env : Env) (dir : FsPath) (hcount : name ≠ countVariable)
    (hfirst : ¬IsVariableOf name 0) :
    (environment env dir).get? name = (shiftSettings env).get? name := by
  rw [environment, Env.get?_set, if_neg hcount, get?_putSetting _ _ _ hfirst]

/-- The number of settings is not among the variables of a setting. -/
theorem setting?_set_countVariable (env : Env) (value : String) (i : Nat) :
    setting? (env.set countVariable value) i = setting? env i :=
  setting?_congr fun name hname => by rw [Env.get?_set, if_neg hname.ne_countVariable]

theorem setting?_environment_zero (env : Env) (dir : FsPath) :
    setting? (environment env dir) 0 = some ("safe.directory", dir.text) := by
  rw [environment, setting?_set_countVariable, setting?_putSetting]

theorem setting?_environment_succ (env : Env) (dir : FsPath) {setting : String × String}
    (hi : i < settingCount env) (hsetting : setting? env i = some setting) :
    setting? (environment env dir) (i + 1) = some setting := by
  rw [← (shifted_shiftSettings env).moved i (by omega) setting hsetting]
  refine setting?_congr fun name hname => get?_environment env dir hname.ne_countVariable ?_
  exact fun hzero => absurd (hname.unique hzero) (Nat.succ_ne_zero i)

theorem count_environment (env : Env) (dir : FsPath) :
    (environment env dir).get? countVariable = some (toString (settingCount env + 1)) := by
  rw [environment, Env.get?_set, if_pos rfl]

/-- The version control program is started with the setting in front of those that the environment
announces, and with all else as it is. The environment itself is left alone when a project is
judged. -/
theorem environment_extends (env : Env) (dir : FsPath) :
    Extends env dir (environment env dir) ∧
      ∀ (w : World) (root file : FsPath) (stored : Option String),
        (World.assess root file stored w).2.host.env = w.host.env where
  left :=
    { count := count_environment env dir
      first := setting?_eq_some.1 (setting?_environment_zero env dir)
      moved := fun _ _ _ hi hkey hvalue => setting?_eq_some.1
        (setting?_environment_succ env dir hi (setting?_eq_some.2 ⟨hkey, hvalue⟩))
      kept := fun name hcount hfirst hother => by
        rw [get?_environment env dir hcount hfirst]
        exact (shifted_shiftSettings env).kept name fun i hi => hother i (by omega)
      reads := fun settings hlength hsettings =>
        { count := by
            rw [count_environment, ← hlength]
            rfl
          numbered := fun i hi => by
            cases i with
            | zero => exact setting?_environment_zero env dir
            | succ i =>
              have hi' : i < settings.length := Nat.lt_of_succ_lt_succ hi
              exact setting?_environment_succ env dir (by omega) (hsettings i hi') } }
  right w root file stored := by
    have hworld : (World.assess root file stored w).2 = w.afterAll
        (Staleness.assess w.fingerprints w.host w.minSize root file stored).trace := rfl
    rw [hworld, World.afterAll_eq]

example : environment [("GIT_CONFIG_COUNT", "1"), ("GIT_CONFIG_KEY_0", "a"),
    ("GIT_CONFIG_VALUE_0", "b")] ⟨.root, ["w"]⟩ =
    [("GIT_CONFIG_COUNT", "2"), ("GIT_CONFIG_KEY_0", "safe.directory"),
      ("GIT_CONFIG_VALUE_0", "/w"), ("GIT_CONFIG_KEY_1", "a"), ("GIT_CONFIG_VALUE_1", "b")] := by
  decide +kernel

/-! ### Numbers of settings that are negative -/

/-- A written number is zero exactly if all of its digits are. -/
theorem ofDigits_eq_zero {ds : List Nat} : Text.ofDigits ds = 0 ↔ ∀ d ∈ ds, d = 0 := by
  have hfold : ∀ (ds : List Nat) (n : Nat),
      ds.foldl (fun n d => n * 10 + d) n = 0 ↔ n = 0 ∧ ∀ d ∈ ds, d = 0 := by
    -- The induction needs the digits read before to be arbitrary.
    intro ds
    induction ds with
    | nil => simp
    | cons d ds ih =>
      intro n
      rw [List.foldl_cons, ih, List.forall_mem_cons, ← and_assoc]
      exact and_congr_left fun _ => by omega
  rw [Text.ofDigits, hfold, eq_self_iff_true, true_and]

/-- A text of a negative number: a minus sign and digits, not all of which are zero, and no more
than are converted. -/
def WritesNegative (text : String) : Prop :=
  ∃ body ds, Text.trimList Text.isSpacing text.toList = '-' :: body ∧
    Text.digitGroups? Text.digitValue? body = some ds ∧ ds.length ≤ Text.maxDigits ∧ ∃ d ∈ ds, d ≠ 0

theorem takeSign_eq_true {cs body : List Char} :
    Text.takeSign cs = (true, body) ↔ cs = '-' :: body := by
  unfold Text.takeSign
  split
  · simp
  · simp
  · next hminus _ => simpa using fun heq => hminus body heq

theorem integer?_eq_some {text : String} {n : Int} : Text.integer? text = some n ↔
    ∃ ds, Text.digitGroups? Text.digitValue?
        (Text.takeSign (Text.trimList Text.isSpacing text.toList)).2 = some ds ∧
      ds.length ≤ Text.maxDigits ∧
      Text.signed (Text.takeSign (Text.trimList Text.isSpacing text.toList)).1
        (Text.ofDigits ds) = n := by
  unfold Text.integer?
  rcases Text.takeSign (Text.trimList Text.isSpacing text.toList) with ⟨negative, body⟩
  cases hds : Text.digitGroups? Text.digitValue? body with
  | none => simp [hds]
  | some ds => simp [hds]

/-- These texts are read as negative numbers, and no others. -/
theorem integer?_neg {text : String} :
    (∃ n, Text.integer? text = some n ∧ n < 0) ↔ WritesNegative text := by
  constructor
  · rintro ⟨n, hn, hneg⟩
    obtain ⟨ds, hds, hlength, rfl⟩ := integer?_eq_some.1 hn
    rcases hsign : Text.takeSign (Text.trimList Text.isSpacing text.toList) with ⟨negative, body⟩
    rw [hsign] at hds hneg
    cases negative with
    | false => exact absurd hneg (Int.not_lt.2 (Int.natCast_nonneg _))
    | true =>
      refine ⟨body, ds, takeSign_eq_true.1 hsign, hds, hlength, ?_⟩
      -- A sign in front of zeros alone makes no negative number.
      by_contra hzero
      have hall : ∀ d ∈ ds, d = 0 := by simpa using hzero
      rw [ofDigits_eq_zero.2 hall] at hneg
      exact absurd hneg (Int.lt_irrefl 0)
  · rintro ⟨body, ds, htrim, hds, hlength, d, hd, hne⟩
    have hsign := takeSign_eq_true.2 htrim
    refine ⟨-(Text.ofDigits ds : Int), integer?_eq_some.2 ⟨ds, ?_, hlength, ?_⟩, ?_⟩
    · rw [hsign]
      exact hds
    · rw [hsign]
      rfl
    have hsome : Text.ofDigits ds ≠ 0 := fun hzero => hne (ofDigits_eq_zero.1 hzero d hd)
    omega

/-- A negative number of settings is announced by such a text only. -/
theorem settingCount_neg : settingCount env < 0 ↔
    ∃ text, env.get? countVariable = some text ∧ WritesNegative text := by
  unfold settingCount
  cases env.get? countVariable with
  | none => simp
  | some text =>
    simp only [Option.bind_some, Option.some.injEq, exists_eq_left', ← integer?_neg]
    cases Text.integer? text with
    | none => simp
    | some n => simp

/-- The setting that makes a directory safe is among those that the program reads. -/
def InEffect (out : Env) (dir : FsPath) : Prop :=
  ∃ m : Nat, 1 ≤ m ∧ out.get? countVariable = some (toString m) ∧
    setting? out 0 = some ("safe.directory", dir.text)

/-- The number of settings is written with a minus sign only if it is negative. -/
theorem toString_ne_of_neg {n : Int} (hn : n ≤ 0) {m : Nat} (hm : 1 ≤ m) :
    toString n ≠ toString m := by
  intro heq
  cases n with
  | ofNat k =>
    have hk : k = m := Text.toString_inj.1 heq
    rw [Int.ofNat_eq_natCast] at hn
    omega
  | negSucc k =>
    have hchars := congrArg String.toList heq
    rw [Json.toList_toString_negSucc, Nat.toString_eq_ofList_toDigits, String.toList_ofList]
      at hchars
    obtain ⟨d, hd, hminus⟩ := Text.exists_digitChar (b := 10) (by decide)
      (hchars ▸ List.mem_cons_self : '-' ∈ Nat.toDigits 10 m)
    exact absurd hminus.symm ((by decide : ∀ d < 10, Nat.digitChar d ≠ '-') d hd)

/-- The directory is a safe one for the version control program, whatever the environment
announces, unless that is a negative number of settings. The number goes up by one even then, so
that it is zero or less, and no setting is read. -/
theorem inEffect_iff (env : Env) (dir : FsPath) :
    (InEffect (environment env dir) dir ↔
      ∀ text, env.get? countVariable = some text → ¬WritesNegative text) ∧
    (¬InEffect (environment env dir) dir →
      ∃ m ≤ 0, (environment env dir).get? countVariable = some (toString (m : Int))) := by
  -- The first setting is always written, so that the announced number alone decides.
  have hiff : InEffect (environment env dir) dir ↔ 0 ≤ settingCount env := by
    unfold InEffect
    rw [count_environment]
    constructor
    · rintro ⟨m, hm, hcount, -⟩
      by_contra hneg
      exact toString_ne_of_neg (by omega) hm (Option.some.inj hcount)
    · intro hn
      obtain ⟨k, hk⟩ := Int.eq_ofNat_of_zero_le hn
      refine ⟨k + 1, Nat.le_add_left 1 k, ?_, setting?_environment_zero env dir⟩
      rw [hk]
      rfl
  have hnot : settingCount env < 0 ↔ ¬InEffect (environment env dir) dir :=
    (hiff.not.trans Int.not_le).symm
  refine ⟨?_, fun hout => ⟨settingCount env + 1, Int.add_one_le_of_lt (hnot.2 hout),
    count_environment env dir⟩⟩
  rw [← not_iff_not, ← hnot, settingCount_neg]
  simp

example : environment [("GIT_CONFIG_COUNT", "-1")] ⟨.root, ["w"]⟩ =
    [("GIT_CONFIG_COUNT", "0"), ("GIT_CONFIG_KEY_0", "safe.directory"),
      ("GIT_CONFIG_VALUE_0", "/w")] := by
  decide +kernel

end IndexSync.Git
