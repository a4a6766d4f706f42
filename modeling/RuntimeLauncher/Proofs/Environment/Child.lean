import RuntimeLauncher.Proofs.LaunchData.Insertion
import RuntimeLauncher.Proofs.Runfiles.Propagation

/-! What a child finds in its variables: an assignment that launch data asks for, a place of the
runfiles, or what its launcher was given. -/
namespace RuntimeLauncher

/-- The value of a variable for a child of a launcher in `env`, which has found `runfiles` and is to
make the assignments `pairs`. -/
inductive ChildValue (runfiles : Runfiles) (env : Variables) (pairs : List (Text × Text)) :
    Text → Option Text → Prop
  | assigned {name value : Text} (h : LaunchData.LastPair pairs name value) :
    ChildValue runfiles env pairs name (some value)
  | directoryKept {value : Text} (hfree : ∀ pair ∈ pairs, pair.1 ≠ Variables.runfilesDirectory)
    (h : env Variables.runfilesDirectory = some value) (hne : value ≠ []) :
    ChildValue runfiles env pairs Variables.runfilesDirectory (some value)
  | directoryFound (hfree : ∀ pair ∈ pairs, pair.1 ≠ Variables.runfilesDirectory)
    (h : ∀ value, env Variables.runfilesDirectory = some value → value = []) :
    ChildValue runfiles env pairs Variables.runfilesDirectory (some runfiles.directory)
  | manifestKept (hfree : ∀ pair ∈ pairs, pair.1 ≠ Variables.runfilesManifest)
    (h : runfiles.manifestFile = none ∨
      ∃ value, env Variables.runfilesManifest = some value ∧ value ≠ []) :
    ChildValue runfiles env pairs Variables.runfilesManifest (env Variables.runfilesManifest)
  | manifestFound {manifest : Path} (hfree : ∀ pair ∈ pairs, pair.1 ≠ Variables.runfilesManifest)
    (h : ∀ value, env Variables.runfilesManifest = some value → value = [])
    (hmanifest : runfiles.manifestFile = some manifest) :
    ChildValue runfiles env pairs Variables.runfilesManifest (some manifest)
  | kept {name : Text} (hfree : ∀ pair ∈ pairs, pair.1 ≠ name)
    (hdirectory : name ≠ Variables.runfilesDirectory)
    (hmanifest : name ≠ Variables.runfilesManifest) :
    ChildValue runfiles env pairs name (env name)

section Append
variable (front : List (Text × Text)) (env : Variables) {pairs : List (Text × Text)} {name : Text}

theorem Assignments.onto_append_of_last {value : Text} (h : LaunchData.LastPair pairs name value) :
    (⟨front ++ pairs⟩ : Assignments).onto env name = some value := by
  have hlast := LaunchData.lookup_reverse_eq_some_iff.2 h
  rw [onto_apply, get?, List.reverse_append, List.lookup_append, hlast, Option.some_or,
    Option.some_or]

theorem Assignments.onto_append_of_free (h : ∀ pair ∈ pairs, pair.1 ≠ name) :
    (⟨front ++ pairs⟩ : Assignments).onto env name = (⟨front⟩ : Assignments).onto env name := by
  rw [onto_apply, get?_append front h, onto_apply]

end Append

section Onto
variable (runfiles : Runfiles) (env : Variables)

theorem onto_runfilesDirectory :
    (⟨runfilesAssignments runfiles env⟩ : Assignments).onto env Variables.runfilesDirectory =
      some ((env.nonempty Variables.runfilesDirectory).getD runfiles.directory) := by
  rw [Assignments.onto_apply, get?_runfilesDirectory]
  cases h : env.nonempty Variables.runfilesDirectory with
  | none => rfl
  | some value => exact (filter_nonempty_eq_some_iff.1 h).1

theorem onto_runfilesManifest :
    (⟨runfilesAssignments runfiles env⟩ : Assignments).onto env Variables.runfilesManifest =
      if (env.nonempty Variables.runfilesManifest).isSome then env Variables.runfilesManifest
      else runfiles.manifestFile.or (env Variables.runfilesManifest) := by
  rw [Assignments.onto_apply, get?_runfilesManifest]
  split_ifs
  · rfl
  · rfl

theorem onto_runfilesAssignments_of_ne {name : Text}
    (hdirectory : name ≠ Variables.runfilesDirectory)
    (hmanifest : name ≠ Variables.runfilesManifest) :
    (⟨runfilesAssignments runfiles env⟩ : Assignments).onto env name = env name := by
  have hnone := get?_runfilesAssignments_of_ne runfiles env hdirectory hmanifest
  rw [Assignments.onto_apply, hnone, Option.none_or]

/-- Each variable has a value of one of these kinds. -/
theorem childValue_onto (pairs : List (Text × Text)) (name : Text) :
    ChildValue runfiles env pairs name
      ((⟨runfilesAssignments runfiles env ++ pairs⟩ : Assignments).onto env name) := by
  cases hlast : pairs.reverse.lookup name with
  | some value =>
    have hassigned := LaunchData.lookup_reverse_eq_some_iff.1 hlast
    rw [Assignments.onto_append_of_last _ _ hassigned]
    exact .assigned hassigned
  | none =>
    have hfree := LaunchData.lookup_reverse_eq_none_iff.1 hlast
    rw [Assignments.onto_append_of_free _ _ hfree]
    by_cases hdirectory : name = Variables.runfilesDirectory
    · subst hdirectory
      rw [onto_runfilesDirectory]
      cases hvalue : env.nonempty Variables.runfilesDirectory with
      | none => exact .directoryFound hfree (filter_nonempty_eq_none_iff.1 hvalue)
      | some value =>
        obtain ⟨henv, hne⟩ := filter_nonempty_eq_some_iff.1 hvalue
        exact .directoryKept hfree henv hne
    by_cases hmanifest : name = Variables.runfilesManifest
    · subst hmanifest
      rw [onto_runfilesManifest]
      cases hvalue : env.nonempty Variables.runfilesManifest with
      | some value =>
        exact .manifestKept hfree (.inr ⟨value, filter_nonempty_eq_some_iff.1 hvalue⟩)
      | none =>
        have hmissing := filter_nonempty_eq_none_iff.1 hvalue
        cases hfile : runfiles.manifestFile with
        | none => exact .manifestKept hfree (.inl hfile)
        | some manifest => exact .manifestFound hfree hmissing hfile
    · rw [onto_runfilesAssignments_of_ne runfiles env hdirectory hmanifest]
      exact .kept hfree hdirectory hmanifest

theorem ChildValue.onto_eq {runfiles : Runfiles} {env : Variables} {pairs : List (Text × Text)}
    {name : Text} {value : Option Text} (h : ChildValue runfiles env pairs name value) :
    (⟨runfilesAssignments runfiles env ++ pairs⟩ : Assignments).onto env name = value := by
  have hfree {name : Text} (h : ∀ pair ∈ pairs, pair.1 ≠ name) :=
    Assignments.onto_append_of_free (runfilesAssignments runfiles env) env h
  cases h with
  | assigned h => exact Assignments.onto_append_of_last _ env h
  | directoryKept hunset h hne =>
    have hvalue := filter_nonempty_eq_some_iff.2 ⟨h, hne⟩
    rw [hfree hunset, onto_runfilesDirectory, Variables.nonempty, hvalue, Option.getD_some]
  | directoryFound hunset h =>
    have hmissing := filter_nonempty_eq_none_iff.2 h
    rw [hfree hunset, onto_runfilesDirectory, Variables.nonempty, hmissing, Option.getD_none]
  | manifestKept hunset h =>
    rw [hfree hunset, onto_runfilesManifest]
    rcases h with hnone | ⟨value, hvalue⟩
    · rw [hnone, Option.none_or, ite_self]
    · rw [Variables.nonempty, filter_nonempty_eq_some_iff.2 hvalue]
      rfl
  | manifestFound hunset h hmanifest =>
    have hmissing := filter_nonempty_eq_none_iff.2 h
    rw [hfree hunset, onto_runfilesManifest, Variables.nonempty, hmissing, hmanifest]
    rfl
  | kept hunset hdirectory hmanifest =>
    rw [hfree hunset, onto_runfilesAssignments_of_ne runfiles env hdirectory hmanifest]

end Onto

/-- A declaration that can be read gives the child an environment, and every variable its value
there. What a lookup finds in the prepared list is what counts when the list is applied in order. -/
theorem onto_childEnvironment {declared : Option Text} {pairs : List (Text × Text)}
    (h : Assignments.parse (declared.getD []) = .ok pairs) (runfiles : Runfiles) (env : Variables) :
    ∃ a, childEnvironment declared runfiles env = .ok a ∧
      ∀ name, a.onto env name = (a.get? name).or (env name) ∧
        ∀ value, a.onto env name = value ↔ ChildValue runfiles env pairs name value := by
  refine ⟨_, childEnvironment_eq_ok_iff.2 ⟨pairs, h, rfl⟩, fun name => ⟨?_, fun value => ?_⟩⟩
  · exact Assignments.onto_apply _ env name
  · refine ⟨?_, ChildValue.onto_eq⟩
    rintro rfl
    exact childValue_onto runfiles env pairs name

/-- Inherited variables of the runfiles, one of them empty. -/
def inheritedVariables : Variables :=
  .ofList [(Variables.runfilesDirectory, []), (Variables.runfilesManifest, "/m".toList),
    (['A'], ['0']), (['B'], ['0'])]

/-- An empty value of the launcher counts as none, one that is assigned does not. -/
theorem onto_childEnvironment_inherited :
    Assignments.parse "A=1;RUNFILES_MANIFEST_FILE=;A=2;".toList =
      .ok [(['A'], ['1']), (Variables.runfilesManifest, []), (['A'], ['2'])] ∧
    ∃ a, childEnvironment (some "A=1;RUNFILES_MANIFEST_FILE=;A=2;".toList)
        (.ofDirectory "/r".toList) inheritedVariables = .ok a ∧
      a.onto inheritedVariables Variables.runfilesDirectory = some "/r".toList ∧
      a.onto inheritedVariables Variables.runfilesManifest = some [] ∧
      a.onto inheritedVariables ['A'] = some ['2'] ∧
      a.onto inheritedVariables ['B'] = some ['0'] := by
  have hparse : Assignments.parse ((some "A=1;RUNFILES_MANIFEST_FILE=;A=2;".toList).getD []) =
      .ok [(['A'], ['1']), (Variables.runfilesManifest, []), (['A'], ['2'])] := rfl
  obtain ⟨a, ha, hvalues⟩ :=
    onto_childEnvironment hparse (.ofDirectory "/r".toList) inheritedVariables
  refine ⟨hparse, a, ha, ?_, ?_, ?_, ?_⟩
  · have hempty : inheritedVariables.nonempty Variables.runfilesDirectory = none := rfl
    exact ((hvalues _).2 _).2 (.directoryFound (by decide) (filter_nonempty_eq_none_iff.1 hempty))
  · exact ((hvalues _).2 _).2 (.assigned ⟨[(['A'], ['1'])], [(['A'], ['2'])], rfl, by decide⟩)
  · exact ((hvalues _).2 _).2
      (.assigned ⟨[(['A'], ['1']), (Variables.runfilesManifest, [])], [], rfl, by decide⟩)
  · exact ((hvalues _).2 _).2 (.kept (by decide) (by decide) (by decide))

end RuntimeLauncher
