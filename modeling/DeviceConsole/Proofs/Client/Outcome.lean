import DeviceConsole.Client

/-! What a client makes of an outcome: the body of a success is read, and whatever else comes back
is a failure that keeps the status or the fault of the connection. -/
namespace DeviceConsole

/-- An answer with a status of the two hundreds. -/
def Outcome.Succeeds (o : Outcome) : Prop :=
  ∃ code body, o = .answer code body ∧ 200 ≤ code ∧ code < 300

namespace Client

variable {α : Type} {read : String → Except RequestError α} {q r : Request} {o : Outcome}

theorem interpret_answer {code : Nat} (h : 200 ≤ code ∧ code < 300) (body : String) :
    interpret read q (.answer code body) = read body := by
  simp [interpret, Status.isSuccess, h]

/-- What is no success is a failure, and its body is not taken for one of a success. -/
theorem interpret_of_not_succeeds (read : String → Except RequestError α) (q : Request)
    (h : ¬ o.Succeeds) :
    (∃ code message, interpret read q o = .error (.status code message)) ∨
      ∃ fault, interpret read q o = .error (.connection fault q.url) := by
  cases o with
  | answer code body =>
    have hcode : Status.isSuccess code = false :=
      Bool.eq_false_iff.mpr fun hs => h ⟨code, body, rfl, by simpa [Status.isSuccess] using hs⟩
    exact .inl ⟨code, _, by rw [interpret, hcode]; rfl⟩
  | refused | dropped | timedOut => exact .inr ⟨_, rfl⟩

/-- Of a request only its address matters to what an outcome means. -/
theorem interpret_congr (h : q.url = r.url) : interpret read q o = interpret read r o := by
  cases o <;> simp [interpret, h]

end Client
end DeviceConsole
