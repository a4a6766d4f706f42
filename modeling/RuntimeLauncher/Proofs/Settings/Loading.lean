import RuntimeLauncher.Proofs.FileSystem.Writing
import RuntimeLauncher.Proofs.Settings.Names
import RuntimeLauncher.Settings.Load

/-! Loading layered settings: the outcome is a matter of the merged values of five fields, and of
the name of their source. -/
namespace RuntimeLauncher

namespace RuntimeSettings

/-- What makes settings unacceptable, in the order of the fields. -/
inductive FirstFault (source : Text) (s : RuntimeSettings) : SettingsError → Prop
  | sentinel (h : Text.blank s.sentinelName = true) :
    FirstFault source s (.emptyField source sentinelField)
  | fallback (hsentinel : Text.blank s.sentinelName = false)
    (h : Text.blank s.fallbackBinary = true) :
    FirstFault source s (.emptyField source fallbackField)
  | extension (hsentinel : Text.blank s.sentinelName = false)
    (hfallback : Text.blank s.fallbackBinary = false)
    (h : Text.blank s.artifactExtension = true) :
    FirstFault source s (.emptyField source extensionField)
  | form (hsentinel : Text.blank s.sentinelName = false)
    (hfallback : Text.blank s.fallbackBinary = false)
    (hextension : Text.blank s.artifactExtension = false)
    (h : s.artifactExtension.head? = some '.' ∨ '/' ∈ s.artifactExtension ∨
      '\\' ∈ s.artifactExtension) :
    FirstFault source s (.badExtension source)

structure Acceptable (s : RuntimeSettings) : Prop where
  sentinel : Text.blank s.sentinelName = false
  fallback : Text.blank s.fallbackBinary = false
  extension : Text.blank s.artifactExtension = false
  noDot : s.artifactExtension.head? ≠ some '.'
  noSlash : '/' ∉ s.artifactExtension
  noBackslash : '\\' ∉ s.artifactExtension

section Validate
variable {source : Text} {s : RuntimeSettings}

theorem badForm_iff :
    (s.artifactExtension.head? = some '.' || s.artifactExtension.any Path.isSeparator) = true ↔
      s.artifactExtension.head? = some '.' ∨ '/' ∈ s.artifactExtension ∨
        '\\' ∈ s.artifactExtension := by
  simp only [Bool.or_eq_true, decide_eq_true_eq, List.any_eq_true, Path.isSeparator, beq_iff_eq]
  grind

theorem validate_of_firstFault {error : SettingsError} (h : FirstFault source s error) :
    s.validate source = .error error := by
  unfold validate error?
  cases h with
  | sentinel h => rw [if_pos h]
  | fallback hsentinel h => simp only [hsentinel, h, if_true, Bool.false_eq_true, if_false]
  | extension hsentinel hfallback h =>
    simp only [hsentinel, hfallback, h, if_true, Bool.false_eq_true, if_false]
  | form hsentinel hfallback hextension h =>
    simp only [hsentinel, hfallback, hextension, badForm_iff.2 h, if_true, Bool.false_eq_true,
      if_false]

theorem validate_of_acceptable (h : Acceptable s) : s.validate source = .ok s := by
  have hform : ¬ (s.artifactExtension.head? = some '.' ||
      s.artifactExtension.any Path.isSeparator) = true := by
    rw [badForm_iff]
    rintro (hdot | hslash | hbackslash)
    · exact h.noDot hdot
    · exact h.noSlash hslash
    · exact h.noBackslash hbackslash
  unfold validate error?
  simp only [h.sentinel, h.fallback, h.extension, hform, Bool.false_eq_true, if_false]

theorem firstFault_or_acceptable (source : Text) (s : RuntimeSettings) :
    (∃ error, FirstFault source s error) ∨ Acceptable s := by
  cases hsentinel : Text.blank s.sentinelName with
  | true => exact .inl ⟨_, .sentinel hsentinel⟩
  | false =>
    cases hfallback : Text.blank s.fallbackBinary with
    | true => exact .inl ⟨_, .fallback hsentinel hfallback⟩
    | false =>
      cases hextension : Text.blank s.artifactExtension with
      | true => exact .inl ⟨_, .extension hsentinel hfallback hextension⟩
      | false =>
        by_cases hform : s.artifactExtension.head? = some '.' ∨ '/' ∈ s.artifactExtension ∨
            '\\' ∈ s.artifactExtension
        · exact .inl ⟨_, .form hsentinel hfallback hextension hform⟩
        · push Not at hform
          exact .inr ⟨hsentinel, hfallback, hextension, hform.1, hform.2.1, hform.2.2⟩

end Validate

end RuntimeSettings

namespace Settings

/-- The fields that a load looks at. -/
def fields : List Text :=
  [debugField, logField, RuntimeSettings.sentinelField, RuntimeSettings.fallbackField,
    RuntimeSettings.extensionField]

/-- Whether a field takes values of this type. Only the debug switch is no text, and takes no
numbers. -/
def accepts (field : Text) : Setting → Bool
  | .text _ => true
  | .flag _ => true
  | .number _ => field ≠ debugField
  | .compound => false
  | .empty => false

def switchOf : Option Setting → Bool
  | some (.flag b) => b
  | some (.text t) => Verbosity.debugEnabled t
  | _ => false

/-- The runtime settings that the values of the fields make, with standard values for missing
ones. -/
def runtimeOf (value : Text → Option Setting) : RuntimeSettings :=
  .ofOptions ((value RuntimeSettings.sentinelField).bind Setting.text?)
    ((value RuntimeSettings.fallbackField).bind Setting.text?)
    ((value RuntimeSettings.extensionField).bind Setting.text?)

def WellTyped (value : Text → Option Setting) : Prop :=
  ∀ field ∈ fields, ∀ setting, value field = some setting → accepts field setting = true

/-- What a load comes to when the fields have these values: a type that a field does not take, and
only then the first value that is not acceptable, and only then settings. -/
inductive Outcome (file : Option Path) (value : Text → Option Setting) :
    Except SettingsError Settings → Prop
  | malformed {field : Text} {setting : Setting} (hfield : field ∈ fields)
    (hvalue : value field = some setting) (h : accepts field setting = false) :
    Outcome file value (.error (.malformed (source file)))
  | invalid {error : SettingsError} (htypes : WellTyped value)
    (h : (runtimeOf value).FirstFault (source file) error) : Outcome file value (.error error)
  | loaded (htypes : WellTyped value) (h : (runtimeOf value).Acceptable) :
    Outcome file value (.ok ⟨switchOf (value debugField),
      ((value logField).bind Setting.text?).filter (!Text.blank ·), runtimeOf value, file⟩)

/-- The same outcome for settings from another file. -/
def relabel (file : Option Path) : Except SettingsError Settings → Except SettingsError Settings
  | .error (.unreadable _) => .error (.unreadable (source file))
  | .error (.malformed _) => .error (.malformed (source file))
  | .error (.emptyField _ field) => .error (.emptyField (source file) field)
  | .error (.badExtension _) => .error (.badExtension (source file))
  | .ok s => .ok { s with file }

/-- The table that is read from a file of settings. Without a file there is nothing in it. -/
def HasTable (fs : FileSystem) (file : Option Path) (table : Toml.Table) : Prop :=
  match file with
  | none => table = []
  | some path => readTable? fs path = some table

/-- A table and variables that say at most once what a field is. -/
structure Layered (table : Toml.Table) (env : List (Text × Text)) : Prop where
  keys : (table.map (Text.toLowerName ·.1)).Nodup
  plainKeys : ∀ entry ∈ table, KeyPath.Plain entry.1
  names : (env.map (Text.toLowerName ·.1)).Nodup
  plainNames : ∀ pair ∈ env, Layers.variableStart <+: Text.toLowerName pair.1 →
    KeyPath.Plain pair.1

theorem accepts_of_ne {field : Text} (h : field ≠ debugField) (setting : Setting) :
    accepts field setting = setting.text?.isSome := by
  cases setting with
  | number shown => exact decide_eq_true h
  | _ => rfl

section Fields
variable {layers : Layers} {source : Text}

theorem debugSetting_eq (h : ∀ setting, layers.get? debugField = some setting →
    accepts debugField setting = true) :
    debugSetting source layers = .ok (switchOf (layers.get? debugField)) := by
  unfold debugSetting
  cases hvalue : layers.get? debugField with
  | none => rfl
  | some setting =>
    have haccepts := h setting hvalue
    cases setting with
    | text t => rfl
    | flag b => rfl
    | number shown => exact absurd haccepts (by simp [accepts])
    | compound => contradiction
    | empty => contradiction

theorem debugSetting_of_not_accepts {setting : Setting} (hvalue : layers.get? debugField = some setting)
    (h : accepts debugField setting = false) :
    debugSetting source layers = .error (.malformed source) := by
  unfold debugSetting
  rw [hvalue]
  cases setting with
  | text t => contradiction
  | flag b => contradiction
  | number shown => rfl
  | compound => rfl
  | empty => rfl

theorem textSetting_eq {field : Text} (hfield : field ≠ debugField)
    (h : ∀ setting, layers.get? field = some setting → accepts field setting = true) :
    textSetting source layers field = .ok ((layers.get? field).bind Setting.text?) := by
  unfold textSetting
  cases hvalue : layers.get? field with
  | none => rfl
  | some setting =>
    have haccepts := h setting hvalue
    rw [accepts_of_ne hfield, Option.isSome_iff_exists] at haccepts
    obtain ⟨text, htext⟩ := haccepts
    simp only [htext, Option.bind_some]

theorem textSetting_of_not_accepts {field : Text} {setting : Setting} (hfield : field ≠ debugField)
    (hvalue : layers.get? field = some setting) (h : accepts field setting = false) :
    textSetting source layers field = .error (.malformed source) := by
  rw [accepts_of_ne hfield, Option.isSome_eq_false_iff, Option.isNone_iff_eq_none] at h
  unfold textSetting
  simp only [hvalue, h]

theorem debugSetting_cases (source : Text) (layers : Layers) :
    (∃ debug, debugSetting source layers = .ok debug) ∨
      debugSetting source layers = .error (.malformed source) := by
  unfold debugSetting
  rcases layers.get? debugField with _ | (_ | _ | _ | _ | _) <;> simp

theorem textSetting_cases (source : Text) (layers : Layers) (field : Text) :
    (∃ text, textSetting source layers field = .ok text) ∨
      textSetting source layers field = .error (.malformed source) := by
  unfold textSetting
  cases layers.get? field with
  | none => exact .inl ⟨none, rfl⟩
  | some setting =>
    cases htext : setting.text? with
    | none => exact .inr (by simp only [htext])
    | some text => exact .inl ⟨some text, by simp only [htext]⟩

theorem ofLayers_of_not_accepts {field : Text} {setting : Setting} (hfield : field ∈ fields)
    (hvalue : layers.get? field = some setting) (h : accepts field setting = false)
    (file : Option Path) : ofLayers file layers = .error (.malformed (Settings.source file)) := by
  have hdebug := debugSetting_cases (Settings.source file) layers
  have htext := textSetting_cases (Settings.source file) layers
  have hbad (hne : field ≠ debugField) : textSetting (Settings.source file) layers field =
      .error (.malformed (Settings.source file)) := textSetting_of_not_accepts hne hvalue h
  unfold ofLayers
  simp only [fields, List.mem_cons, List.not_mem_nil, or_false] at hfield
  -- whatever the fields in front hold, they are malformed at worst
  rcases hfield with rfl | rfl | rfl | rfl | rfl
  · rw [debugSetting_of_not_accepts hvalue h, error_bind]
  · refine bind_eq_error_of_next hdebug fun debug => ?_
    rw [hbad (by decide), error_bind]
  · refine bind_eq_error_of_next hdebug fun debug => ?_
    refine bind_eq_error_of_next (htext logField) fun log => ?_
    rw [hbad (by decide), error_bind]
  · refine bind_eq_error_of_next hdebug fun debug => ?_
    refine bind_eq_error_of_next (htext logField) fun log => ?_
    refine bind_eq_error_of_next (htext RuntimeSettings.sentinelField) fun sentinel => ?_
    rw [hbad (by decide), error_bind]
  · refine bind_eq_error_of_next hdebug fun debug => ?_
    refine bind_eq_error_of_next (htext logField) fun log => ?_
    refine bind_eq_error_of_next (htext RuntimeSettings.sentinelField) fun sentinel => ?_
    refine bind_eq_error_of_next (htext RuntimeSettings.fallbackField) fun fallback => ?_
    rw [hbad (by decide), error_bind]

theorem ofLayers_of_wellTyped (h : WellTyped layers.get?) (file : Option Path) :
    ofLayers file layers = (runtimeOf layers.get?).validate (Settings.source file) >>= fun runtime =>
      .ok ⟨switchOf (layers.get? debugField),
        ((layers.get? logField).bind Setting.text?).filter (!Text.blank ·), runtime, file⟩ := by
  have htext {field : Text} (hmem : field ∈ fields) (hne : field ≠ debugField) :
      textSetting (Settings.source file) layers field =
        .ok ((layers.get? field).bind Setting.text?) := textSetting_eq hne (h field hmem)
  unfold ofLayers runtimeOf
  rw [debugSetting_eq (h debugField (by decide)), ok_bind, htext (by decide) (by decide), ok_bind,
    htext (by decide) (by decide), ok_bind, htext (by decide) (by decide), ok_bind,
    htext (by decide) (by decide), ok_bind]
  rfl

end Fields

theorem Outcome.ofLayers_eq {file : Option Path} {layers : Layers}
    {result : Except SettingsError Settings} (h : Outcome file layers.get? result) :
    ofLayers file layers = result := by
  cases h with
  | malformed hfield hvalue h => exact ofLayers_of_not_accepts hfield hvalue h file
  | invalid htypes h =>
    rw [ofLayers_of_wellTyped htypes, RuntimeSettings.validate_of_firstFault h, error_bind]
  | loaded htypes h =>
    rw [ofLayers_of_wellTyped htypes, RuntimeSettings.validate_of_acceptable h, ok_bind]

theorem exists_outcome (file : Option Path) (value : Text → Option Setting) :
    ∃ result, Outcome file value result := by
  by_cases htypes : WellTyped value
  · rcases RuntimeSettings.firstFault_or_acceptable (source file) (runtimeOf value) with
      ⟨error, hfault⟩ | hacceptable
    · exact ⟨_, .invalid htypes hfault⟩
    · exact ⟨_, .loaded htypes hacceptable⟩
  · unfold WellTyped at htypes
    push Not at htypes
    obtain ⟨field, hfield, setting, hvalue, h⟩ := htypes
    exact ⟨_, .malformed hfield hvalue (Bool.eq_false_of_not_eq_true h)⟩

theorem outcome_iff {file : Option Path} {layers : Layers}
    {result : Except SettingsError Settings} :
    Outcome file layers.get? result ↔ ofLayers file layers = result := by
  constructor
  · exact Outcome.ofLayers_eq
  · rintro rfl
    obtain ⟨result, hresult⟩ := exists_outcome file layers.get?
    rwa [hresult.ofLayers_eq]

theorem firstFault_relabel {s : RuntimeSettings} {file : Option Path}
    {error : SettingsError} (h : s.FirstFault (source file) error) (file' : Option Path) :
    ∃ error', relabel file' (.error error) = .error error' ∧
      s.FirstFault (source file') error' := by
  cases h with
  | sentinel h => exact ⟨_, rfl, .sentinel h⟩
  | fallback hsentinel h => exact ⟨_, rfl, .fallback hsentinel h⟩
  | extension hsentinel hfallback h => exact ⟨_, rfl, .extension hsentinel hfallback h⟩
  | form hsentinel hfallback hextension h =>
    exact ⟨_, rfl, .form hsentinel hfallback hextension h⟩

/-- Equal values of the fields make equal outcomes. -/
theorem Outcome.relabel {file : Option Path} {value value' : Text → Option Setting}
    {result : Except SettingsError Settings} (h : Outcome file value result)
    (hsame : ∀ field ∈ fields, value' field = value field) (file' : Option Path) :
    Outcome file' value' (Settings.relabel file' result) := by
  have hvalue {field : Text} (hmem : field ∈ fields := by decide) : value' field = value field :=
    hsame field hmem
  have hruntime : runtimeOf value' = runtimeOf value := by
    unfold runtimeOf
    rw [hvalue, hvalue, hvalue]
  have htyped (htypes : WellTyped value) : WellTyped value' := by
    intro field hmem setting hsetting
    rw [hsame field hmem] at hsetting
    exact htypes field hmem setting hsetting
  cases h with
  | malformed hfield hsetting h => exact .malformed hfield ((hsame _ hfield).trans hsetting) h
  | invalid htypes h =>
    obtain ⟨error', herror, hfault⟩ := firstFault_relabel h file'
    rw [herror]
    exact .invalid (htyped htypes) (hruntime ▸ hfault)
  | loaded htypes h =>
    have hloaded : Outcome file' value' _ := .loaded (htyped htypes) (hruntime ▸ h)
    rw [hvalue, hvalue, hruntime] at hloaded
    exact hloaded

section Layered
variable {fs fs' : FileSystem} {file file' : Option Path} {table table' : Toml.Table}
  {env env' : List (Text × Text)}

theorem load_eq (h : HasTable fs file table) :
    load fs file env = ofLayers file (Layers.ofTable table ++ Layers.ofVariables env) := by
  unfold HasTable at h
  unfold load layers
  cases file with
  | none =>
    rw [h]
    rfl
  | some path =>
    simp only [h]
    rfl

theorem Layered.get?_eq (h : Layered table env) :
    (Layers.ofTable table ++ Layers.ofVariables env).get? = Layers.merged table env :=
  funext fun field => Layers.get?_append h.plainKeys h.keys h.plainNames h.names field

theorem load_eq_iff (htable : HasTable fs file table) (h : Layered table env)
    {result : Except SettingsError Settings} :
    load fs file env = result ↔ Outcome file (Layers.merged table env) result := by
  rw [load_eq htable, ← h.get?_eq, outcome_iff]

theorem load_eq_relabel (htable : HasTable fs file table) (h : Layered table env)
    (htable' : HasTable fs' file' table') (h' : Layered table' env')
    (hsame : ∀ field ∈ fields, Layers.merged table' env' field = Layers.merged table env field) :
    load fs' file' env' = relabel file' (load fs file env) := by
  have houtcome := (load_eq_iff htable h).1 rfl
  exact (load_eq_iff htable' h').2 (houtcome.relabel hsame file')

section Moved
variable {before after : Toml.Table} {key text name : Text}

/-- A text says the same in a variable as in the table. -/
theorem merged_moved (h : Layered (before ++ (key, .string text) :: after) env)
    (hname : Text.toLowerName name = Layers.variableStart ++ Text.toLowerName key)
    (hfree : ∀ pair ∈ env, Text.toLowerName pair.1 ≠ Text.toLowerName name) (field : Text) :
    Layers.merged (before ++ after) ((name, text) :: env) field =
      Layers.merged (before ++ (key, .string text) :: after) env field := by
  unfold Layers.merged Layers.assigned? Layers.tableValue?
  rw [List.find?_cons, List.find?_append, List.find?_append, List.find?_cons]
  by_cases hfield : Text.toLowerName key = field
  · have hnone : env.find? (fun pair => Text.toLowerName pair.1 = Layers.variableStart ++ field) =
        none := by
      rw [List.find?_eq_none]
      intro pair hpair
      rw [← hfield, ← hname]
      simpa using hfree pair hpair
    have hbefore : before.find? (fun entry => Text.toLowerName entry.1 = field) = none := by
      have hnodup := h.keys
      rw [List.map_append, List.map_cons, List.nodup_append] at hnodup
      rw [List.find?_eq_none]
      intro entry hentry
      rw [decide_eq_true_eq, ← hfield]
      exact hnodup.2.2 _ (List.mem_map_of_mem hentry) _ List.mem_cons_self
    simp only [hname, hfield, hnone, hbefore, decide_true]
    rfl
  · have hother : ¬ Layers.variableStart ++ Text.toLowerName key = Layers.variableStart ++ field := by
      intro heq
      exact hfield (List.append_cancel_left heq)
    simp only [hname, hfield, hother, decide_false]

theorem Layered.moved (h : Layered (before ++ (key, .string text) :: after) env)
    (hname : Text.toLowerName name = Layers.variableStart ++ Text.toLowerName key)
    (hfree : ∀ pair ∈ env, Text.toLowerName pair.1 ≠ Text.toLowerName name) :
    Layered (before ++ after) ((name, text) :: env) := by
  have hmem : (key, Toml.Value.string text) ∈ before ++ (key, .string text) :: after :=
    List.mem_append_right before List.mem_cons_self
  have hsub : (before ++ after).Sublist (before ++ (key, .string text) :: after) :=
    (List.Sublist.refl before).append (List.sublist_cons_self _ after)
  have hplain : KeyPath.Plain name := by
    rw [← KeyPath.plain_toLowerName_iff, hname]
    have hkey := KeyPath.plain_toLowerName_iff.2 (h.plainKeys _ hmem)
    constructor
    · intro hdot
      rcases List.mem_append.1 hdot with hstart | hrest
      · exact absurd hstart (by decide)
      · exact hkey.noName hrest
    · intro hbracket
      rcases List.mem_append.1 hbracket with hstart | hrest
      · exact absurd hstart (by decide)
      · exact hkey.noIndex hrest
  refine ⟨h.keys.sublist (hsub.map _), fun entry hentry => h.plainKeys entry (hsub.subset hentry),
    ?_, ?_⟩
  · rw [List.map_cons, List.nodup_cons]
    refine ⟨?_, h.names⟩
    rw [List.mem_map]
    rintro ⟨pair, hpair, heq⟩
    exact hfree pair hpair heq
  · intro pair hpair hstart
    rcases List.mem_cons.1 hpair with rfl | hpair
    · exact hplain
    · exact h.plainNames pair hpair hstart

end Moved

/-- A load is decided by the value of each of the five fields, which is the text of a variable, and
the value of the table where there is no variable. The rest of the table and the other variables
count for nothing: sources with the same values lead to the same settings or the same error, up to
the name of the file, and so do sources where a text has moved from the table into a variable. -/
theorem load_layers (htable : HasTable fs file table) (h : Layered table env) :
    (∀ result, load fs file env = result ↔ Outcome file (Layers.merged table env) result) ∧
    (∀ fs' file' table' env', HasTable fs' file' table' → Layered table' env' →
      (∀ field ∈ fields, Layers.merged table' env' field = Layers.merged table env field) →
        load fs' file' env' = relabel file' (load fs file env)) ∧
    ∀ before key text after name fs' file', table = before ++ (key, .string text) :: after →
      Text.toLowerName name = Layers.variableStart ++ Text.toLowerName key →
      (∀ pair ∈ env, Text.toLowerName pair.1 ≠ Text.toLowerName name) →
      HasTable fs' file' (before ++ after) →
        load fs' file' ((name, text) :: env) = relabel file' (load fs file env) := by
  refine ⟨fun result => load_eq_iff htable h, ?_, ?_⟩
  · intro fs' file' table' env' htable' h' hsame
    exact load_eq_relabel htable h htable' h' hsame
  · rintro before key text after name fs' file' rfl hname hfree htable'
    have hmoved := h.moved hname hfree
    exact load_eq_relabel htable h htable' hmoved fun field _ => merged_moved h hname hfree field

end Layered

/-- A file with a list where a switch belongs, and a variable that hides it. -/
def hiddenText : Text := "Debug = []\nlog = \"a\"\n".toList

def hiddenTable : Toml.Table := [("Debug".toList, .array []), ("log".toList, .string "a".toList)]

def hiddenTree : FileSystem :=
  (FileSystem.empty "/w".toList).place "s.toml".toList (.file (Utf8.encode hiddenText) {})

def hidingVariables : List (Text × Text) :=
  [("DOTNET_LAUNCHER_FALLBACK_BINARY".toList, "mono".toList),
    ("dotnet_launcher_debug".toList, []), ("PATH".toList, "/bin".toList)]

theorem hasTable_hidden : HasTable hiddenTree (some "s.toml".toList) hiddenTable := by
  have hfile : hiddenTree.FileAt "/w/s.toml".toList ["w".toList, "s.toml".toList]
      (Utf8.encode hiddenText) {} := ⟨rfl, rfl⟩
  have hread := hfile.readText_eq rfl
  have hactual : actualFile? hiddenTree "s.toml".toList = some "/w/s.toml".toList := rfl
  have hparse : Toml.parse hiddenText = some hiddenTable := rfl
  have hmarked : Toml.parseMarked hiddenText = some hiddenTable := by
    unfold Toml.parseMarked
    rw [hparse]
    rfl
  unfold HasTable readTable?
  simp only [hactual, hread, hmarked]

/-- An empty text hides a list in a field that takes none, and the other text of the table
counts. -/
theorem load_layers_hidden :
    HasTable hiddenTree (some "s.toml".toList) hiddenTable ∧
    Layered hiddenTable hidingVariables ∧
    load hiddenTree (some "s.toml".toList) hidingVariables =
      .ok ⟨false, some "a".toList, ⟨"dotnet".toList, "mono".toList, "dll".toList⟩,
        some "s.toml".toList⟩ := by
  have hlayered : Layered hiddenTable hidingVariables :=
    ⟨by decide, by decide, by decide, by decide⟩
  have htypes : WellTyped (Layers.merged hiddenTable hidingVariables) := by
    unfold WellTyped
    decide
  have houtcome := (load_layers hasTable_hidden hlayered).1
  refine ⟨hasTable_hidden, hlayered, (houtcome _).2 ?_⟩
  exact .loaded htypes ⟨by decide, by decide, by decide, by decide, by decide, by decide⟩

end Settings

end RuntimeLauncher
