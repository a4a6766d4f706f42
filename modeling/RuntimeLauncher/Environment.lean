import RuntimeLauncher.Text.Basic

/-! Environment variables: the ones a process has, and the ones that are set for its child. They may
be written as one text: `key=value` entries with semicolons between them. -/
namespace RuntimeLauncher

abbrev Variables := Text → Option Text

namespace Variables

/-- Pairs as variables; of two with one name the later counts. -/
def ofList (pairs : List (Text × Text)) : Variables := fun name => pairs.reverse.lookup name

/-- The value of a variable that is set to more than nothing. -/
def nonempty (env : Variables) (name : Text) : Option Text :=
  (env name).filter (· ≠ [])

def set (env : Variables) (name value : Text) : Variables :=
  fun n => if n = name then some value else env n

end Variables

/-- Variables to set, in order; later ones win. -/
structure Assignments where
  pairs : List (Text × Text)
  deriving DecidableEq, Repr

namespace Assignments

def set (a : Assignments) (name value : Text) : Assignments := ⟨a.pairs ++ [(name, value)]⟩

def get? (a : Assignments) (name : Text) : Option Text := a.pairs.reverse.lookup name

def keys (a : Assignments) : List Text := a.pairs.map (·.1)

/-- The assignments made one after the other on top of some variables. -/
def onto (a : Assignments) (env : Variables) : Variables :=
  a.pairs.foldl (fun env pair => env.set pair.1 pair.2) env

@[simp] theorem get?_set (a : Assignments) (name value k : Text) :
    (a.set name value).get? k = if k = name then some value else a.get? k := by
  rw [get?, set, List.reverse_append, List.reverse_singleton, List.singleton_append,
    lookup_cons_eq_ite, get?]

theorem onto_apply (a : Assignments) (env : Variables) (k : Text) :
    a.onto env k = (a.get? k).or (env k) := by
  obtain ⟨pairs⟩ := a
  induction pairs generalizing env with
  | nil => rfl
  | cons pair pairs ih =>
    have step := ih (env.set pair.1 pair.2)
    simp only [onto, get?, List.foldl_cons, List.reverse_cons, List.lookup_append] at step ⊢
    rw [step, lookup_cons_eq_ite, List.lookup_nil, Option.or_assoc, Variables.set]
    split <;> rfl

/-- An entry is cut at its first `=`, which is not in front. A malformed entry is its own error. -/
def parseEntry (entry : Text) : Except Text (Text × Text) :=
  match cutFirst '=' entry with
  | none => .error entry
  | some ([], _) => .error entry
  | some (key, value) => .ok (key, value)

/-- Reads the entries in order and skips empty ones. The first malformed entry is the error. -/
def parse (raw : Text) : Except Text (List (Text × Text)) :=
  ((raw.splitOn ';').filter (· ≠ [])).mapM parseEntry

def render (pairs : List (Text × Text)) : Text :=
  [';'].intercalate (pairs.map fun pair => pair.1 ++ '=' :: pair.2)

end Assignments

end RuntimeLauncher
