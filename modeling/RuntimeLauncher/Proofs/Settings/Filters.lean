import RuntimeLauncher.Proofs.Settings.Loading

/-! The filter of the log before settings are loaded, which is read from variables, and the one that
loaded settings ask for. -/
namespace RuntimeLauncher

namespace Settings

/-- Variables that have one meaning each, whether their names are taken as they are or in lower case:
no two of them differ in case alone, and those for settings are in capitals and lead no further than
to a field. -/
structure Unambiguous (env : List (Text × Text)) : Prop where
  names : (env.map (Text.toLowerName ·.1)).Nodup
  capital : ∀ pair ∈ env, Layers.variableStart <+: Text.toLowerName pair.1 → Text.Capital pair.1
  plain : ∀ pair ∈ env, Layers.variableStart <+: Text.toLowerName pair.1 → KeyPath.Plain pair.1

section Variables
variable {env : List (Text × Text)}

/-- The variable of a field is found by its own name as it is among the names in lower case. -/
theorem Unambiguous.assigned?_eq (h : Unambiguous env) {name field : Text}
    (hname : Text.toLowerName name = Layers.variableStart ++ field)
    (hcapital : Text.Capital name) (hk : 'k' ∉ Text.toLowerName name) :
    Layers.assigned? env field = Variables.ofList env name := by
  have hnodup : (env.map (·.1)).Nodup := by
    refine List.Nodup.of_map Text.toLowerName ?_
    rw [List.map_map]
    exact h.names
  have hsame : ∀ pair ∈ env, decide (Text.toLowerName pair.1 = Layers.variableStart ++ field) =
      decide (pair.1 = name) := by
    intro pair hpair
    refine decide_eq_decide.2 ⟨fun heq => ?_, fun heq => heq ▸ hname⟩
    have hpairCapital := h.capital pair hpair ⟨field, heq.symm⟩
    exact Text.eq_of_toLowerName_eq hpairCapital hcapital hk (heq.trans hname.symm)
  rw [Layers.assigned?, Variables.ofList, lookup_reverse_of_nodup hnodup, lookup_eq_find?,
    List.find?_congr hsame]

theorem Unambiguous.assigned?_log (h : Unambiguous env) :
    Layers.assigned? env logField = Variables.ofList env Verbosity.logVariable :=
  h.assigned?_eq (by decide) (by decide) (by decide)

theorem Unambiguous.assigned?_debug (h : Unambiguous env) :
    Layers.assigned? env debugField = Variables.ofList env Verbosity.debugVariable :=
  h.assigned?_eq (by decide) (by decide) (by decide)

end Variables

section Load
variable {fs : FileSystem} {file : Option Path} {env : List (Text × Text)} {s : Settings}

/-- Settings that were loaded come from variables, on top of a table that was read. -/
theorem exists_layers (h : load fs file env = .ok s) :
    ∃ table, HasTable fs file table ∧
      ofLayers file (Layers.ofTable table ++ Layers.ofVariables env) = .ok s := by
  cases file with
  | none =>
    have htable : HasTable fs none [] := rfl
    exact ⟨[], htable, (load_eq htable).symm.trans h⟩
  | some path =>
    cases htable : readTable? fs path with
    | none =>
      unfold load layers at h
      simp only [htable, error_bind] at h
      contradiction
    | some table =>
      have hread : HasTable fs (some path) table := htable
      exact ⟨table, hread, (load_eq hread).symm.trans h⟩

theorem selectFilter_filter (log : Option Text) (debug : Bool) :
    Verbosity.selectFilter (log.filter (!Text.blank ·)) debug = Verbosity.selectFilter log debug := by
  simp only [Verbosity.selectFilter, Option.filter_filter, Bool.and_self]

theorem selectFilter_of_not_blank {text : Text} (h : Text.blank text = false) (debug : Bool) :
    Verbosity.selectFilter (some text) debug = text := by
  rw [Verbosity.selectFilter, Option.filter_some, h]
  rfl

/-- Of the values of the fields two make the filter. -/
theorem Outcome.filter_eq {value : Text → Option Setting} (h : Outcome file value (.ok s)) :
    s.filter = Verbosity.selectFilter ((value logField).bind Setting.text?)
      (switchOf (value debugField)) := by
  cases h with
  | loaded htypes h => exact selectFilter_filter _ _

/-- A variable decides its part of the filter, and the table below it counts where there is none. -/
theorem exists_filter_eq (henv : Unambiguous env) (h : load fs file env = .ok s) :
    ∃ table, HasTable fs file table ∧
      s.filter = Verbosity.selectFilter
        ((((Variables.ofList env Verbosity.logVariable).map .text).or
          ((Layers.ofTable table).get? logField)).bind Setting.text?)
        (switchOf (((Variables.ofList env Verbosity.debugVariable).map .text).or
          ((Layers.ofTable table).get? debugField))) := by
  obtain ⟨table, htable, hlayers⟩ := exists_layers h
  refine ⟨table, htable, ?_⟩
  rw [(outcome_iff.2 hlayers).filter_eq, Layers.get?_append_ofVariables henv.plain henv.names,
    Layers.get?_append_ofVariables henv.plain henv.names, henv.assigned?_log, henv.assigned?_debug]

theorem bind_map_text (value : Option Text) : (value.map .text).bind Setting.text? = value := by
  cases value <;> rfl

theorem switchOf_map_text (value : Option Text) :
    switchOf (value.map .text) = (value.map Verbosity.debugEnabled).getD false := by
  cases value <;> rfl

end Load

/-- The filter that settings ask for is the one that the log has started with, if no file is named.
Whatever a file says, a filter that a variable asks for holds before and after. -/
theorem filter_ofEnvironment {fs : FileSystem} {env : List (Text × Text)} {s : Settings}
    (henv : Unambiguous env) (h : ofEnvironment fs env = .ok s) :
    let own := Variables.ofList env
    (own fileVariable = none ∨ own fileVariable = some [] →
      s.filter = Verbosity.bootstrapFilter own) ∧
    ∀ text, own Verbosity.logVariable = some text → Text.blank text = false →
      s.filter = text ∧ Verbosity.bootstrapFilter own = text := by
  intro own
  obtain ⟨table, htable, hfilter⟩ := exists_filter_eq henv h
  have hown : Variables.ofList env = own := rfl
  rw [hown] at hfilter
  constructor
  · intro hunset
    have hfile : fileOf env = none := by
      rw [fileOf, hown, Variables.nonempty, filter_nonempty_eq_none_iff]
      rintro t ht
      rcases hunset with hnone | hempty
      · rw [hnone] at ht
        contradiction
      · exact (Option.some.inj (hempty.symm.trans ht)).symm
    rw [hfile] at htable
    obtain rfl : table = [] := htable
    have hbelow (field : Text) : (Layers.ofTable []).get? field = none := rfl
    rw [hfilter, hbelow, hbelow, Option.or_none, Option.or_none, bind_map_text, switchOf_map_text]
    rfl
  · intro text hlog hblank
    constructor
    · rw [hfilter, hlog]
      exact selectFilter_of_not_blank hblank _
    · rw [Verbosity.bootstrapFilter, hlog]
      exact selectFilter_of_not_blank hblank _

/-- A blank filter, which does not count, and a switch with blanks around. -/
def blankVariables : List (Text × Text) :=
  [("PATH".toList, "/bin".toList), ("DOTNET_LAUNCHER_CONFIG".toList, []),
    ("DOTNET_LAUNCHER_LOG".toList, " \t".toList), ("DOTNET_LAUNCHER_DEBUG".toList, " Yes ".toList)]

/-- A filter beside a file with another one, and with a switch of the wrong type. -/
def filterVariables : List (Text × Text) :=
  [("DOTNET_LAUNCHER_CONFIG".toList, "s.toml".toList), ("DOTNET_LAUNCHER_DEBUG".toList, "0".toList),
    ("DOTNET_LAUNCHER_LOG".toList, "dotnet_launcher=info".toList)]

/-- Without a file the switch makes the filter both times. With a file the filter of the variable
does. -/
theorem filter_ofEnvironment_switched :
    (∃ s, Unambiguous blankVariables ∧ ofEnvironment hiddenTree blankVariables = .ok s ∧
      s.filter = "debug".toList ∧
      Verbosity.bootstrapFilter (Variables.ofList blankVariables) = "debug".toList) ∧
    ∃ s, Unambiguous filterVariables ∧ ofEnvironment hiddenTree filterVariables = .ok s ∧
      s.filter = "dotnet_launcher=info".toList ∧
      Verbosity.bootstrapFilter (Variables.ofList filterVariables) =
        "dotnet_launcher=info".toList := by
  have hblank : Unambiguous blankVariables := ⟨by decide, by decide, by decide⟩
  have hfilter : Unambiguous filterVariables := ⟨by decide, by decide, by decide⟩
  have hloaded : ofEnvironment hiddenTree blankVariables = .ok ⟨true, none, .standard, none⟩ := rfl
  have hlayered : ofEnvironment hiddenTree filterVariables =
      .ok ⟨false, some "dotnet_launcher=info".toList, .standard, some "s.toml".toList⟩ := by
    have hfile : fileOf filterVariables = some "s.toml".toList := rfl
    rw [ofEnvironment, hfile, load_eq hasTable_hidden]
    rfl
  have hswitched : Verbosity.bootstrapFilter (Variables.ofList blankVariables) = "debug".toList := rfl
  obtain ⟨hsame, -⟩ := filter_ofEnvironment hblank hloaded
  obtain ⟨-, hasked⟩ := filter_ofEnvironment hfilter hlayered
  obtain ⟨hlater, hfirst⟩ := hasked "dotnet_launcher=info".toList rfl rfl
  exact ⟨⟨_, hblank, hloaded, (hsame (.inr rfl)).trans hswitched, hswitched⟩,
    ⟨_, hfilter, hlayered, hlater, hfirst⟩⟩

end Settings

end RuntimeLauncher
