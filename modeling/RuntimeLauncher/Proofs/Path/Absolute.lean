import Mathlib.Data.List.TakeWhile
import Mathlib.Tactic
import RuntimeLauncher.Proofs.Path.Components

/-! Absolute forms: from one or two slashes through names and `..` to a place, maybe with a slash
behind it. A path in this form is its own absolute form. -/
namespace RuntimeLauncher.Path

/-- A piece of a path that an absolute form keeps: a name or `..`. -/
structure IsStep (piece : Text) : Prop where
  slash_not_mem : '/' ∉ piece
  not_idle : isIdle piece = false

/-- An absolute path with no `.` on the way, no repeated slashes, and none behind it but that of the
root itself. -/
structure Normalised (p : Path) : Prop where
  absolute : isAbsolute p = true
  pieces : p = ['/'] ∨ ∀ piece ∈ (p.splitOn '/').tail, piece ≠ [] ∧ piece ≠ ['.']

instance (p : Path) : Decidable (Normalised p) :=
  decidable_of_iff (isAbsolute p = true ∧
      (p = ['/'] ∨ ∀ piece ∈ (p.splitOn '/').tail, piece ≠ [] ∧ piece ≠ ['.']))
    ⟨fun h => ⟨h.1, h.2⟩, fun h => ⟨h.absolute, h.pieces⟩⟩

/-- The slashes that an absolute path begins with, where three count as one. -/
def slashes : Path → Path
  | '/' :: '/' :: '/' :: _ => ['/']
  | '/' :: '/' :: _ => ['/', '/']
  | _ => ['/']

/-- The form that an absolute path with steps takes. -/
structure IsForm (p root : Path) (names : List Text) : Prop where
  root_eq : root = ['/'] ∨ root = ['/', '/']
  names_ne : names ≠ []
  isStep : ∀ name ∈ names, IsStep name
  parts : p = root ++ ['/'].intercalate names ∨ p = root ++ ['/'].intercalate names ++ ['/']

theorem isStep_of_mem_steps {p : Path} {piece : Text} (h : piece ∈ steps p) : IsStep piece := by
  obtain ⟨hpiece, hidle⟩ := List.mem_filter.1 h
  exact ⟨not_mem_of_mem_splitOn hpiece, by simpa using hidle⟩

theorem IsStep.ne_nil {piece : Text} (h : IsStep piece) : piece ≠ [] := by
  rintro rfl
  exact absurd h.not_idle (by decide)

theorem IsStep.not_isAbsolute {piece : Text} (h : IsStep piece) : ¬ isAbsolute piece = true :=
  fun habsolute => h.slash_not_mem (slash_mem_of_isAbsolute habsolute)

theorem IsStep.getLast?_append_ne {piece : Text} (h : IsStep piece) (base : Path) :
    (base ++ piece).getLast? ≠ some '/' := by
  rw [List.getLast?_append_of_ne_nil _ h.ne_nil]
  exact fun hlast => h.slash_not_mem (List.mem_of_getLast? hlast)

theorem intercalate_append_cons (front piece : Text) (pieces : List Text) :
    ['/'].intercalate ((front ++ piece) :: pieces) = front ++ ['/'].intercalate (piece :: pieces) := by
  cases pieces with
  | nil => simp
  | cons next pieces => simp [List.intercalate_cons_cons]

section Steps
variable {names : List Text} (hnames : ∀ name ∈ names, IsStep name)
include hnames

theorem foldl_join_of_not_final {base : Path} (hbase : base ≠ []) (hlast : base.getLast? ≠ some '/') :
    names.foldl join base = ['/'].intercalate (base :: names) := by
  induction names generalizing base with
  | nil => simp
  | cons name rest ih =>
    obtain ⟨hname, hrest⟩ := List.forall_mem_cons.1 hnames
    have hjoin : join base name = (base ++ ['/']) ++ name := by
      rw [join, if_neg hname.not_isAbsolute, if_neg (by simp [hbase, hlast]), List.append_assoc,
        List.singleton_append]
    have hnext := hname.getLast?_append_ne (base ++ ['/'])
    rw [List.foldl_cons, hjoin, ih hrest (by simp) hnext, intercalate_append_cons,
      List.intercalate_cons_cons]

/-- From a slash, steps are joined with one slash between them. -/
theorem foldl_join {root : Path} (hroot : root.getLast? = some '/') :
    names.foldl join root = root ++ ['/'].intercalate names := by
  cases names with
  | nil => simp
  | cons name rest =>
    obtain ⟨hname, hrest⟩ := List.forall_mem_cons.1 hnames
    have hjoin : join root name = root ++ name := by
      rw [join, if_neg hname.not_isAbsolute, if_pos (by simp [hroot])]
    have hne : root ++ name ≠ [] := List.append_ne_nil_of_right_ne_nil _ hname.ne_nil
    rw [List.foldl_cons, hjoin, foldl_join_of_not_final hrest hne (hname.getLast?_append_ne root),
      intercalate_append_cons]

theorem splitOn_steps (hne : names ≠ []) : (['/'].intercalate names).splitOn '/' = names :=
  List.splitOn_intercalate '/' (fun name hname => (hnames name hname).slash_not_mem) hne

theorem exists_steps_eq_cons (hne : names ≠ []) :
    ∃ c rest, ['/'].intercalate names = c :: rest ∧ c ≠ '/' := by
  obtain ⟨name, others, rfl⟩ := List.exists_cons_of_ne_nil hne
  have hname := hnames name List.mem_cons_self
  obtain ⟨c, rest, rfl⟩ := List.exists_cons_of_ne_nil hname.ne_nil
  refine ⟨c, ['/'].intercalate (rest :: others), intercalate_append_cons [c] rest others, ?_⟩
  rintro rfl
  exact hname.slash_not_mem List.mem_cons_self

theorem getLast?_append_steps_ne (root : Path) (hne : names ≠ []) :
    (root ++ ['/'].intercalate names).getLast? ≠ some '/' := by
  obtain ⟨c, rest, hcons, -⟩ := exists_steps_eq_cons hnames hne
  have hsteps : ['/'].intercalate names ≠ [] := by
    rw [hcons]
    exact List.cons_ne_nil c rest
  rw [List.getLast?_append_of_ne_nil _ hsteps]
  intro hlast
  -- a final slash would have an empty piece behind it
  obtain ⟨front, hfront⟩ := List.getLast?_eq_some_iff.1 hlast
  have hsplit := splitOn_steps hnames hne
  rw [hfront, List.splitOn_append_cons_self, List.splitOn_nil] at hsplit
  have hmem : [] ∈ names := hsplit ▸ List.mem_append_right _ (List.mem_singleton_self [])
  exact (hnames [] hmem).ne_nil rfl

end Steps

theorem slashes_cases (p : Path) : slashes p = ['/'] ∨ slashes p = ['/', '/'] := by
  unfold slashes
  split
  · exact .inl rfl
  · exact .inr rfl
  · exact .inl rfl

/-- Where an absolute form starts from. -/
def start (cwd p : Path) : Path := if isAbsolute p then slashes p else cwd

theorem absolute_eq (cwd p : Path) :
    absolute cwd p = if p.getLast? = some '/' then join ((steps p).foldl join (start cwd p)) []
      else (steps p).foldl join (start cwd p) := by
  unfold absolute start
  cases isAbsolute p <;> rfl

/-- A final slash of the path comes back behind the steps. -/
theorem absolute_eq_of_foldl {cwd p root : Path} {names : List Text} (hne : names ≠ [])
    (hnames : ∀ name ∈ names, IsStep name)
    (h : (steps p).foldl join (start cwd p) = root ++ ['/'].intercalate names) :
    absolute cwd p = if p.getLast? = some '/' then root ++ ['/'].intercalate names ++ ['/']
      else root ++ ['/'].intercalate names := by
  have hlast := getLast?_append_steps_ne hnames root hne
  have hrelative : ¬ isAbsolute [] = true := by decide
  have hbody : root ++ ['/'].intercalate names ≠ [] := by
    obtain ⟨c, rest, hcons, -⟩ := exists_steps_eq_cons hnames hne
    simp [hcons]
  have hjoin : join (root ++ ['/'].intercalate names) [] = root ++ ['/'].intercalate names ++ ['/'] := by
    rw [join, if_neg hrelative, if_neg (by simpa [hbody] using hlast)]
  rw [absolute_eq, h, hjoin]

theorem Normalised.exists_steps {p : Path} (h : Normalised p) :
    ∃ names : List Text, (∀ name ∈ names, IsStep name) ∧ p = names.foldl join ['/'] := by
  rcases h.pieces with rfl | hpieces
  · exact ⟨[], by simp, rfl⟩
  obtain ⟨rest, rfl⟩ := isAbsolute_iff_prefix.1 h.absolute
  have hsplit : (['/'] ++ rest).splitOn '/' = [] :: rest.splitOn '/' :=
    List.splitOn_append_cons_self_of_not_mem List.not_mem_nil rest
  rw [hsplit, List.tail_cons] at hpieces
  have hnames : ∀ name ∈ rest.splitOn '/', IsStep name := by
    intro name hname
    obtain ⟨hempty, hdot⟩ := hpieces name hname
    exact ⟨not_mem_of_mem_splitOn hname, by simp [isIdle, hempty, hdot]⟩
  refine ⟨rest.splitOn '/', hnames, ?_⟩
  rw [foldl_join hnames rfl, List.intercalate_splitOn]

/-- From a directory the steps of a path lead on. -/
theorem exists_isForm_foldl {cwd : Path} (hcwd : Normalised cwd) {p : Path} (hsteps : steps p ≠ []) :
    ∃ root names, (root = ['/'] ∨ root = ['/', '/']) ∧ names ≠ [] ∧ (∀ name ∈ names, IsStep name) ∧
      (steps p).foldl join (start cwd p) = root ++ ['/'].intercalate names := by
  have hp : ∀ name ∈ steps p, IsStep name := fun name hname => isStep_of_mem_steps hname
  unfold start
  split_ifs with habsolute
  · have hroot := slashes_cases p
    refine ⟨slashes p, steps p, hroot, hsteps, hp, foldl_join hp ?_⟩
    rcases hroot with hroot | hroot
    · rw [hroot]
      rfl
    · rw [hroot]
      rfl
  · obtain ⟨names, hnames, rfl⟩ := hcwd.exists_steps
    have hall : ∀ name ∈ names ++ steps p, IsStep name := List.forall_mem_append.2 ⟨hnames, hp⟩
    refine ⟨['/'], names ++ steps p, .inl rfl, List.append_ne_nil_of_right_ne_nil _ hsteps, hall, ?_⟩
    rw [← List.foldl_append, foldl_join hall rfl]

theorem exists_isForm_absolute {cwd : Path} (hcwd : Normalised cwd) {p : Path}
    (hsteps : steps p ≠ []) : ∃ root names, IsForm (absolute cwd p) root names := by
  obtain ⟨root, names, hroot, hne, hnames, hwhole⟩ := exists_isForm_foldl hcwd hsteps
  refine ⟨root, names, hroot, hne, hnames, ?_⟩
  rw [absolute_eq_of_foldl hne hnames hwhole]
  split_ifs
  · exact .inr rfl
  · exact .inl rfl

theorem Normalised.isForm {p : Path} (h : Normalised p) (hne : p ≠ ['/']) :
    ∃ names, IsForm p ['/'] names := by
  obtain ⟨names, hnames, rfl⟩ := h.exists_steps
  refine ⟨names, .inl rfl, ?_, hnames, .inl (foldl_join hnames rfl)⟩
  rintro rfl
  exact hne rfl

namespace IsForm
variable {p root : Path} {names : List Text} (h : IsForm p root names)
include h

/-- The pieces of the form are its steps, with empty ones around them. -/
theorem splitOn_eq : ∃ front back, p.splitOn '/' = [] :: (front ++ names ++ back) ∧
    (∀ piece ∈ front, piece = []) ∧ ∀ piece ∈ back, piece = [] := by
  have hslash (rest : Path) : ('/' :: rest).splitOn '/' = [] :: rest.splitOn '/' :=
    List.splitOn_append_cons_self_of_not_mem List.not_mem_nil rest
  have hback : ∃ body back, p = root ++ body ∧ body.splitOn '/' = names ++ back ∧
      ∀ piece ∈ back, piece = [] := by
    have hsplit := splitOn_steps h.isStep h.names_ne
    rcases h.parts with hp | hp
    · exact ⟨_, [], hp, by rw [hsplit, List.append_nil], by simp⟩
    · refine ⟨_, [[]], hp.trans (List.append_assoc ..), ?_, by simp⟩
      rw [List.splitOn_append_cons_self, hsplit, List.splitOn_nil]
  obtain ⟨body, back, rfl, hbody, hempty⟩ := hback
  rcases h.root_eq with rfl | rfl
  · exact ⟨[], back, by rw [List.singleton_append, hslash, hbody, List.nil_append], by simp, hempty⟩
  · refine ⟨[[]], back, ?_, by simp, hempty⟩
    rw [List.cons_append, List.singleton_append, hslash, hslash, hbody]
    rfl

theorem steps_eq : steps p = names := by
  obtain ⟨front, back, hsplit, hfront, hback⟩ := h.splitOn_eq
  have hidle {pieces : List Text} (hempty : ∀ piece ∈ pieces, piece = []) :
      pieces.filter (fun piece => !isIdle piece) = [] := by
    rw [List.filter_eq_nil_iff]
    intro piece hpiece
    rw [hempty piece hpiece]
    decide
  have hnames : names.filter (fun piece => !isIdle piece) = names := by
    rw [List.filter_eq_self]
    intro name hname
    simp [(h.isStep name hname).not_idle]
  rw [steps, hsplit, List.filter_cons_of_neg (by decide), List.filter_append, List.filter_append,
    hidle hfront, hidle hback, hnames, List.nil_append, List.append_nil]

theorem exists_root_append : ∃ c rest, c ≠ '/' ∧ p = root ++ c :: rest := by
  obtain ⟨c, rest, hcons, hc⟩ := exists_steps_eq_cons h.isStep h.names_ne
  rcases h.parts with hp | hp
  · exact ⟨c, rest, hc, by rw [hp, hcons]⟩
  · exact ⟨c, rest ++ ['/'], hc, by rw [hp, hcons, List.append_assoc, List.cons_append]⟩

theorem isAbsolute : isAbsolute p = true := by
  obtain ⟨c, rest, -, rfl⟩ := h.exists_root_append
  rcases h.root_eq with rfl | rfl <;> rfl

theorem slashes_eq : slashes p = root := by
  obtain ⟨c, rest, hc, rfl⟩ := h.exists_root_append
  rcases h.root_eq with rfl | rfl
  · simp [slashes, hc]
  · simp [slashes, hc]

/-- A form is its own absolute form, whatever the directory is. -/
theorem absolute_eq (cwd : Path) : absolute cwd p = p := by
  have hroot : root.getLast? = some '/' := by
    rcases h.root_eq with rfl | rfl <;> rfl
  have hwhole : (steps p).foldl join (start cwd p) = root ++ ['/'].intercalate names := by
    rw [start, if_pos h.isAbsolute, h.slashes_eq, h.steps_eq, foldl_join h.isStep hroot]
  have hlast := getLast?_append_steps_ne h.isStep root h.names_ne
  rw [absolute_eq_of_foldl h.names_ne h.isStep hwhole]
  rcases h.parts with hp | hp
  · rw [if_neg (hp ▸ hlast), hp]
  · rw [if_pos (by simp [hp]), hp]

end IsForm

/-- Behind the first slash of the path there is a name or `..`. -/
def HasFolder (p : Path) : Prop := ∃ piece ∈ (p.splitOn '/').tail, isIdle piece = false

theorem ofPieces_significant_ne_nil (front : Text) (rest : List Text) :
    ofPieces (significant (front :: rest)) ≠ [] := by
  rw [significant, ofPieces]
  split_ifs with hroot
  · decide
  cases hrest : (rest.reverse.dropWhile isIdle).reverse with
  | nil =>
    rw [hrest] at hroot
    have hfront : front ≠ [] := fun hnil => hroot (by rw [hnil])
    simpa using hfront
  | cons next pieces => simp [List.intercalate_cons_cons]

/-- Only a path with a folder has a parent that is more than the empty path. -/
theorem exists_parent_iff {p : Path} : (∃ c rest, parent p = some (c :: rest)) ↔ HasFolder p := by
  obtain ⟨front, rest, hsplit⟩ := List.exists_cons_of_ne_nil (List.splitOn_ne_nil '/' p)
  rw [parent, hsplit, significant, HasFolder, hsplit, List.tail_cons]
  cases hrest : (rest.reverse.dropWhile isIdle).reverse with
  | nil =>
    rw [List.reverse_eq_nil_iff, List.dropWhile_eq_nil_iff] at hrest
    -- the parent is empty, or there is none
    refine iff_of_false ?_ ?_
    · rintro ⟨c, more, hparent⟩
      dsimp only at hparent
      split_ifs at hparent
      cases hparent
    · rintro ⟨piece, hpiece, hidle⟩
      rw [hrest piece (List.mem_reverse.2 hpiece)] at hidle
      contradiction
  | cons next pieces =>
    refine iff_of_true ?_ ?_
    · obtain ⟨c, more, hparent⟩ := List.exists_cons_of_ne_nil
        (ofPieces_significant_ne_nil front (next :: pieces).dropLast)
      exact ⟨c, more, congrArg some hparent⟩
    · by_contra hnone
      push Not at hnone
      have hall : rest.reverse.dropWhile isIdle = [] := by
        rw [List.dropWhile_eq_nil_iff]
        intro piece hpiece
        simpa using hnone piece (List.mem_reverse.1 hpiece)
      rw [hall] at hrest
      contradiction

theorem HasFolder.steps_ne_nil {p : Path} (h : HasFolder p) : steps p ≠ [] := by
  obtain ⟨piece, hpiece, hidle⟩ := h
  have hmem : piece ∈ steps p :=
    List.mem_filter.2 ⟨List.mem_of_mem_tail hpiece, by simp [hidle]⟩
  exact List.ne_nil_of_mem hmem

theorem IsForm.hasFolder {p root : Path} {names : List Text} (h : IsForm p root names) :
    HasFolder p := by
  obtain ⟨front, back, hsplit, -, -⟩ := h.splitOn_eq
  obtain ⟨name, others, rfl⟩ := List.exists_cons_of_ne_nil h.names_ne
  refine ⟨name, ?_, (h.isStep name List.mem_cons_self).not_idle⟩
  rw [hsplit, List.tail_cons]
  simp

end RuntimeLauncher.Path
