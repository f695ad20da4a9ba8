import Mathlib.Data.List.Basic

/-!
# Calls one after the other

An object is used by calls, each of which changes its state and returns an answer. A call may fail
in the middle, and the next call then finds the state that it left. `after` is the state after some
calls and `answers` are the answers that they gave. What every call keeps all calls keep
(`after_keeps`).
-/

namespace HtmlModules.Calls

variable {κ σ ε α : Type}

/-- The state that a call leaves, whether it fails or not. -/
def stateOf : EStateM.Result ε σ α → σ
  | .ok _ s | .error _ s => s

/-- What a call returns, or why it fails. -/
def answerOf : EStateM.Result ε σ α → Except ε α
  | .ok a _ => .ok a
  | .error e _ => .error e

variable (perform : κ → EStateM ε σ α)

/-- The state after calls. -/
def after (s : σ) (calls : List κ) : σ := calls.foldl (fun s call => stateOf (perform call s)) s

/-- The answers to calls. -/
def answers : σ → List κ → List (Except ε α)
  | _, [] => []
  | s, call :: rest => answerOf (perform call s) :: answers (stateOf (perform call s)) rest

/-- Two runs of calls one after the other are one run. -/
theorem after_append (s : σ) (calls more : List κ) :
    after perform s (calls ++ more) = after perform (after perform s calls) more :=
  List.foldl_append

theorem after_concat (s : σ) (calls : List κ) (call : κ) :
    after perform s (calls ++ [call]) = stateOf (perform call (after perform s calls)) :=
  after_append perform s calls [call]

/-- The last answer is given in the state after the calls before. -/
theorem answers_concat (s : σ) (calls : List κ) (call : κ) :
    answers perform s (calls ++ [call]) =
      answers perform s calls ++ [answerOf (perform call (after perform s calls))] := by
  induction calls generalizing s with
  | nil => rfl
  | cons first calls ih =>
    rw [List.cons_append, answers, ih, answers, List.cons_append]
    rfl

variable {perform}

/-- What every call keeps is kept by all of them. -/
theorem after_keeps {P : σ → Prop} (hstep : ∀ s call, P s → P (stateOf (perform call s))) {s : σ}
    (hs : P s) (calls : List κ) : P (after perform s calls) := by
  induction calls generalizing s with
  | nil => exact hs
  | cons call calls ih => exact ih (hstep s call hs)

end HtmlModules.Calls
