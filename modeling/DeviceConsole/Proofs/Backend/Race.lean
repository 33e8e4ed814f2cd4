import DeviceConsole.Proofs.Backend.Run

/-! Two programs over one backend. Each request is answered on its own, and which program sends the
next one is open. -/
namespace DeviceConsole.Exchange

variable {σ α β : Type} {serve : Request → σ → Outcome × σ}

/-- A way for two programs that send one request at a time to run to their ends. The trace lists
the requests in order, those of the first program on the left. -/
inductive Race (serve : Request → σ → Outcome × σ) :
    Exchange α → Exchange β → σ → α → β → σ → List (Request ⊕ Request) → Prop
  | done (a : α) (b : β) (s : σ) : Race serve (.done a) (.done b) s a b s []
  | left {q : Request} {next : Outcome → Exchange α} {y : Exchange β} {s s' : σ} {a : α} {b : β}
      {trace : List (Request ⊕ Request)}
      (rest : Race serve (next (serve q s).1) y (serve q s).2 a b s' trace) :
      Race serve (.ask q next) y s a b s' (.inl q :: trace)
  | right {q : Request} {x : Exchange α} {next : Outcome → Exchange β} {s s' : σ} {a : α} {b : β}
      {trace : List (Request ⊕ Request)}
      (rest : Race serve x (next (serve q s).1) (serve q s).2 a b s' trace) :
      Race serve x (.ask q next) s a b s' (.inr q :: trace)

namespace Race

variable {x : Exchange α} {y : Exchange β} {s s' : σ} {a : α} {b : β}
  {trace : List (Request ⊕ Request)}

theorem swap (h : Race serve x y s a b s' trace) :
    Race serve y x s b a s' (trace.map Sum.swap) := by
  induction h with
  | done a b s => exact .done b a s
  | left _ ih => exact .right ih
  | right _ ih => exact .left ih

/-- Once the first program has ended, the second runs alone. -/
theorem of_done {v : α} (h : Race serve (.done v) y s a b s' trace) :
    a = v ∧ b = (y.run serve s).value ∧ s' = (y.run serve s).state := by
  generalize hx : Exchange.done v = x at h
  induction h with
  | done a b s =>
    cases hx
    exact ⟨rfl, rfl, rfl⟩
  | left => cases hx
  | right _ ih => exact ih hx

end Race
end DeviceConsole.Exchange
