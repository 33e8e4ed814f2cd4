import DeviceConsole.Backend.Exchange

/-! Conversations as programs: they form a lawful monad, and a run follows the program request by
request. -/
namespace DeviceConsole.Exchange

variable {σ α β γ : Type}

@[simp] theorem pure_eq (a : α) : (pure a : Exchange α) = .done a := rfl

@[simp] theorem done_bind (a : α) (f : α → Exchange β) : (Exchange.done a >>= f) = f a := rfl

@[simp] theorem ask_bind (q : Request) (next : Outcome → Exchange α) (f : α → Exchange β) :
    (Exchange.ask q next >>= f) = .ask q fun o => next o >>= f := rfl

@[simp] theorem askBoth_bind (q r : Request) (next : Outcome → Outcome → Exchange α)
    (f : α → Exchange β) :
    (Exchange.askBoth q r next >>= f) = .askBoth q r fun o p => next o p >>= f := rfl

theorem bind_done (x : Exchange α) : (x >>= Exchange.done) = x := by
  induction x with
  | done a => rfl
  | ask q next ih => simp [ih]
  | askBoth q r next ih => simp [ih]

theorem bind_assoc (x : Exchange α) (f : α → Exchange β) (g : β → Exchange γ) :
    (x >>= f >>= g) = x >>= fun a => f a >>= g := by
  induction x with
  | done a => rfl
  | ask q next ih => simp [ih]
  | askBoth q r next ih => simp [ih]

instance : LawfulMonad Exchange :=
  LawfulMonad.mk' Exchange bind_done (fun _ _ => rfl) bind_assoc

@[simp] theorem map_done (f : α → β) (a : α) : (f <$> Exchange.done a) = .done (f a) := rfl

@[simp] theorem map_ask (f : α → β) (q : Request) (next : Outcome → Exchange α) :
    (f <$> Exchange.ask q next) = .ask q fun o => f <$> next o := rfl

variable (serve : Request → σ → Outcome × σ)

@[simp] theorem run_done (a : α) (s : σ) : (Exchange.done a).run serve s = ⟨a, s, []⟩ := rfl

/-- The answer decides how the program goes on, from the state the backend is left in. -/
theorem run_ask (q : Request) (next : Outcome → Exchange α) (s : σ) :
    (Exchange.ask q next).run serve s =
      let r := (next (serve q s).1).run serve (serve q s).2
      ⟨r.value, r.state, q :: r.requests⟩ := rfl

/-- What is made of the value changes neither the requests nor the backend. -/
theorem run_map (f : α → β) (x : Exchange α) (s : σ) :
    (f <$> x).run serve s =
      ⟨f (x.run serve s).value, (x.run serve s).state, (x.run serve s).requests⟩ := by
  induction x generalizing s with
  | done a => rfl
  | ask q next ih => rw [map_ask, run_ask, run_ask, ih]
  | askBoth p q next ih =>
    change (Exchange.askBoth p q fun o o' => f <$> next o o').run serve s = _
    simp only [run, ih]

end DeviceConsole.Exchange
