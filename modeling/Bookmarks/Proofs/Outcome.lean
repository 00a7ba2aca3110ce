/-!
Outcomes of computations that can fail.
-/
set_option autoImplicit false

namespace Bookmarks

variable {ε α β : Type}

theorem bind_eq_ok {outcome : Except ε α} {next : α → Except ε β} {result : β} :
    outcome >>= next = .ok result ↔ ∃ value, outcome = .ok value ∧ next value = .ok result := by
  cases outcome with
  | ok value =>
      constructor
      · intro succeeds
        exact ⟨value, rfl, succeeds⟩
      · rintro ⟨_, ⟨⟩, succeeds⟩
        exact succeeds
  | error failure =>
      constructor
      · intro succeeds
        cases succeeds
      · rintro ⟨_, impossible, _⟩
        cases impossible

theorem bind_of_ok {outcome : Except ε α} {value : α} (done : outcome = .ok value) (next : α → Except ε β) :
    outcome >>= next = next value := by
  rw [done]
  rfl

theorem bind_of_error {outcome : Except ε α} {failure : ε} (failed : outcome = .error failure)
    (next : α → Except ε β) : outcome >>= next = .error failure := by
  rw [failed]
  rfl

theorem bind_eq_error {outcome : Except ε α} {next : α → Except ε β} {failure : ε} :
    outcome >>= next = .error failure ↔
      outcome = .error failure ∨ ∃ value, outcome = .ok value ∧ next value = .error failure := by
  cases outcome with
  | ok value =>
      constructor
      · intro failed
        exact Or.inr ⟨value, rfl, failed⟩
      · rintro (impossible | ⟨_, ⟨⟩, failed⟩)
        · cases impossible
        · exact failed
  | error other =>
      constructor
      · rintro ⟨⟩
        exact Or.inl rfl
      · rintro (⟨⟨⟩⟩ | ⟨_, impossible, _⟩)
        · rfl
        · cases impossible

theorem error_of_not_ok {outcome : Except ε α} (failed : outcome.isOk = false) :
    ∃ failure, outcome = .error failure := by
  cases outcome with
  | error failure => exact ⟨failure, rfl⟩
  | ok value => cases failed

theorem map_m_append_one {f : α → Except ε β} {values : List α} {results : List β} {value : α} {result : β}
    (all : values.mapM f = .ok results) (one : f value = .ok result) :
    (values ++ [value]).mapM f = .ok (results ++ [result]) := by
  have last : [value].mapM f = .ok [result] := by
    rw [List.mapM_cons, bind_of_ok one]
    rfl
  rw [List.mapM_append, bind_of_ok all, bind_of_ok last]
  rfl

theorem length_of_map_m {f : α → Except ε β} {values : List α} {results : List β}
    (all : values.mapM f = .ok results) : results.length = values.length := by
  induction values generalizing results with
  | nil =>
      cases all
      rfl
  | cons value values ih =>
      rw [List.mapM_cons] at all
      obtain ⟨result, _, rest⟩ := bind_eq_ok.mp all
      obtain ⟨others, done, same⟩ := bind_eq_ok.mp rest
      cases same
      rw [List.length_cons, List.length_cons, ih done]

theorem map_error_ok {ζ : Type} {outcome : Except ε α} {f : ε → ζ} {value : α} :
    outcome.mapError f = .ok value ↔ outcome = .ok value := by
  cases outcome with
  | ok other =>
      constructor
      · rintro ⟨⟩
        rfl
      · rintro ⟨⟩
        rfl
  | error failure =>
      constructor
      · intro impossible
        cases impossible
      · intro impossible
        cases impossible

-- Two outcomes that are the same failure, or values that belong together.
inductive Parallel (related : α → β → Prop) : Except ε α → Except ε β → Prop
  | ok (left : α) (right : β) (same : related left right) : Parallel related (.ok left) (.ok right)
  | error (failure : ε) : Parallel related (.error failure) (.error failure)

theorem Parallel.bind {γ δ : Type} {related : α → β → Prop} {later : γ → δ → Prop} {left : Except ε α}
    {right : Except ε β} {f : α → Except ε γ} {g : β → Except ε δ} (outcomes : Parallel related left right)
    (next : ∀ a b, related a b → Parallel later (f a) (g b)) : Parallel later (left >>= f) (right >>= g) := by
  cases outcomes with
  | ok a b same => exact next a b same
  | error failure => exact .error failure

theorem Parallel.refl (outcome : Except ε α) :
    Parallel (fun left right => left = right ∧ outcome = .ok left) outcome outcome := by
  cases outcome with
  | ok value => exact .ok value value ⟨rfl, rfl⟩
  | error failure => exact .error failure

end Bookmarks
