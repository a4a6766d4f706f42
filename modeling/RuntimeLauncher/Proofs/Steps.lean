/-! Steps that may fail, one after the other. -/
namespace RuntimeLauncher

variable {ε α β : Type}

@[simp] theorem pure_eq_ok (a : α) : (pure a : Except ε α) = .ok a := rfl

@[simp] theorem ok_bind (a : α) (next : α → Except ε β) : (.ok a >>= next) = next a := rfl

@[simp] theorem error_bind (error : ε) (next : α → Except ε β) :
    (.error error >>= next) = .error error := rfl

theorem bind_eq_ok_iff {first : Except ε α} {next : α → Except ε β} {b : β} :
    first >>= next = .ok b ↔ ∃ a, first = .ok a ∧ next a = .ok b := by
  cases first with
  | error error => simp
  | ok a => simp

theorem bind_eq_error_iff {first : Except ε α} {next : α → Except ε β} {error : ε} :
    first >>= next = .error error ↔
      first = .error error ∨ ∃ a, first = .ok a ∧ next a = .error error := by
  cases first with
  | error other => simp
  | ok a => simp

/-- The first step fails, if it does, as the rest would. -/
theorem bind_eq_error_of_next {first : Except ε α} {next : α → Except ε β} {error : ε}
    (hfirst : (∃ a, first = .ok a) ∨ first = .error error) (hnext : ∀ a, next a = .error error) :
    first >>= next = .error error := by
  rcases hfirst with ⟨a, rfl⟩ | rfl
  · exact hnext a
  · rfl

/-- Two results with the same error, or with values that stand in a relation. -/
inductive SameResult (rel : α → β → Prop) : Except ε α → Except ε β → Prop
  | error (error : ε) : SameResult rel (.error error) (.error error)
  | ok {a : α} {b : β} (h : rel a b) : SameResult rel (.ok a) (.ok b)

theorem SameResult.error_or_ok {rel : α → β → Prop} {result : Except ε α} {result' : Except ε β}
    (h : SameResult rel result result') :
    (∃ error, result = .error error ∧ result' = .error error) ∨
      ∃ a b, result = .ok a ∧ result' = .ok b ∧ rel a b := by
  cases h with
  | error error => exact .inl ⟨error, rfl, rfl⟩
  | ok h => exact .inr ⟨_, _, rfl, rfl, h⟩

theorem SameResult.bind {α' β' : Type} {rel : α → β → Prop} {rel' : α' → β' → Prop}
    {first : Except ε α} {first' : Except ε β} {next : α → Except ε α'} {next' : β → Except ε β'}
    (h : SameResult rel first first')
    (hnext : ∀ a b, rel a b → SameResult rel' (next a) (next' b)) :
    SameResult rel' (first >>= next) (first' >>= next') := by
  cases h with
  | error error => exact .error error
  | ok h => exact hnext _ _ h

theorem SameResult.refl (result : Except ε α) : SameResult (· = ·) result result := by
  cases result with
  | error error => exact .error error
  | ok a => exact .ok rfl

end RuntimeLauncher
