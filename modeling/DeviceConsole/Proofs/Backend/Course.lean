import DeviceConsole.Proofs.Backend.Run

/-! Courses of a program. Two requests that are out together come to the backend in either order,
and the program goes on once it has the answers to both. -/
namespace DeviceConsole.Exchange

variable {σ α β : Type} {serve : Request → σ → Outcome × σ}

/-- The outcomes of two requests that are out together, the state the backend is left in, and the
requests in the order in which they came. -/
inductive Joint (serve : Request → σ → Outcome × σ) (q r : Request) (s : σ) :
    Outcome → Outcome → σ → List Request → Prop
  | inTurn {o p : Outcome} {s' s'' : σ} (first : serve q s = (o, s'))
      (second : serve r s' = (p, s'')) : Joint serve q r s o p s'' [q, r]
  | crossed {o p : Outcome} {s' s'' : σ} (first : serve r s = (p, s'))
      (second : serve q s' = (o, s'')) : Joint serve q r s o p s'' [r, q]

/-- A way for a program to come to its end. -/
inductive Course (serve : Request → σ → Outcome × σ) :
    Exchange α → σ → α → σ → List Request → Prop
  | done (a : α) (s : σ) : Course serve (.done a) s a s []
  | ask {q : Request} {next : Outcome → Exchange α} {s s' s'' : σ} {o : Outcome} {a : α}
      {sent : List Request} (served : serve q s = (o, s'))
      (rest : Course serve (next o) s' a s'' sent) :
      Course serve (.ask q next) s a s'' (q :: sent)
  | askBoth {q r : Request} {next : Outcome → Outcome → Exchange α} {s s' s'' : σ}
      {o p : Outcome} {a : α} {sent sent' : List Request} (joint : Joint serve q r s o p s' sent)
      (rest : Course serve (next o p) s' a s'' sent') :
      Course serve (.askBoth q r next) s a s'' (sent ++ sent')

/-- A run, which has the first of two requests served first, is a course. -/
theorem course_run (serve : Request → σ → Outcome × σ) (x : Exchange α) (s : σ) :
    Course serve x s (x.run serve s).value (x.run serve s).state (x.run serve s).requests := by
  induction x generalizing s with
  | done a => exact .done a s
  | ask q next ih => exact .ask rfl (ih _ _)
  | askBoth q r next ih => exact .askBoth (.inTurn rfl rfl) (ih _ _ _)

variable {s s' : σ} {sent : List Request}

theorem course_done_iff {v a : α} :
    Course serve (.done v) s a s' sent ↔ a = v ∧ s' = s ∧ sent = [] := by
  constructor
  · intro h
    cases h
    exact ⟨rfl, rfl, rfl⟩
  · rintro ⟨rfl, rfl, rfl⟩
    exact .done _ _

/-- A program that ends with the answers to two requests. -/
theorem course_askBoth_iff {q r : Request} {f : Outcome → Outcome → α} {a : α} :
    Course serve (.askBoth q r fun o p => .done (f o p)) s a s' sent ↔
      ∃ o p, Joint serve q r s o p s' sent ∧ a = f o p := by
  constructor
  · intro h
    cases h with
    | @askBoth _ _ _ _ _ _ o p _ _ _ hjoint hrest =>
      obtain ⟨rfl, rfl, rfl⟩ := course_done_iff.mp hrest
      exact ⟨o, p, by rwa [List.append_nil], rfl⟩
  · rintro ⟨o, p, hjoint, rfl⟩
    rw [← List.append_nil sent]
    exact .askBoth hjoint (.done _ _)

theorem course_map_iff {x : Exchange α} {f : α → β} {b : β} :
    Course serve (f <$> x) s b s' sent ↔ ∃ a, Course serve x s a s' sent ∧ b = f a := by
  constructor
  · intro h
    induction x generalizing s sent with
    | done a =>
      obtain ⟨rfl, rfl, rfl⟩ := course_done_iff.mp h
      exact ⟨a, .done _ _, rfl⟩
    | ask q next ih =>
      cases h with
      | ask hserved hrest =>
        obtain ⟨a, ha, rfl⟩ := ih _ hrest
        exact ⟨a, .ask hserved ha, rfl⟩
    | askBoth q r next ih =>
      cases h with
      | askBoth hjoint hrest =>
        obtain ⟨a, ha, rfl⟩ := ih _ _ hrest
        exact ⟨a, .askBoth hjoint ha, rfl⟩
  · rintro ⟨a, h, rfl⟩
    induction h with
    | done a s => exact .done _ _
    | ask hserved _ ih => exact .ask hserved ih
    | askBoth hjoint _ ih => exact .askBoth hjoint ih

end DeviceConsole.Exchange
