import Mathlib

set_option autoImplicit false

/-! # Runs of calls

A part of the craft that keeps a state answers calls one after the other. `perform` says what one call
answers and which state it leaves; this file extends it to lists of calls, by `Run.answers`,
`Run.history` and `Run.final`. Facts about runs are proved by `Run.induction` or `Run.history_induction`,
from what one call does to the calls and answers so far and to the state. -/

namespace LightPilot.Run

variable {State Call Answer : Type}

/-- The answers to a list of calls, in order. -/
def answers (perform : State → Call → Answer × State) : State → List Call → List Answer
  | _, [] => []
  | state, call :: calls =>
    (perform state call).1 :: answers perform (perform state call).2 calls

/-- The state that a list of calls leaves. -/
def final (perform : State → Call → Answer × State) : State → List Call → State
  | state, [] => state
  | state, call :: calls => final perform (perform state call).2 calls

/-- A list of calls with their answers. -/
def history (perform : State → Call → Answer × State) : State → List Call → List (Call × Answer)
  | _, [] => []
  | state, call :: calls =>
    (call, (perform state call).1) :: history perform (perform state call).2 calls

variable (perform : State → Call → Answer × State)

theorem answers_append (state : State) (calls more : List Call) :
    answers perform state (calls ++ more)
      = answers perform state calls ++ answers perform (final perform state calls) more := by
  induction calls generalizing state with
  | nil => rfl
  | cons call calls ih => simp only [List.cons_append, answers, final, ih]

theorem answers_prefix {calls more : List Call} (h : calls <+: more) (state : State) :
    answers perform state calls <+: answers perform state more := by
  obtain ⟨rest, rfl⟩ := h
  rw [answers_append]
  exact List.prefix_append ..

theorem length_answers (state : State) (calls : List Call) :
    (answers perform state calls).length = calls.length := by
  induction calls generalizing state with
  | nil => rfl
  | cons call calls ih => rw [answers, List.length_cons, ih, List.length_cons]

theorem final_append (state : State) (calls more : List Call) :
    final perform state (calls ++ more) = final perform (final perform state calls) more := by
  induction calls generalizing state with
  | nil => rfl
  | cons call calls ih => simp only [List.cons_append, final, ih]

theorem history_append (state : State) (calls more : List Call) :
    history perform state (calls ++ more)
      = history perform state calls ++ history perform (final perform state calls) more := by
  induction calls generalizing state with
  | nil => rfl
  | cons call calls ih => simp only [List.cons_append, history, final, ih]

theorem answers_snoc (state : State) (calls : List Call) (call : Call) :
    answers perform state (calls ++ [call])
      = answers perform state calls ++ [(perform (final perform state calls) call).1] :=
  answers_append ..

theorem final_snoc (state : State) (calls : List Call) (call : Call) :
    final perform state (calls ++ [call]) = (perform (final perform state calls) call).2 :=
  final_append ..

theorem history_snoc (state : State) (calls : List Call) (call : Call) :
    history perform state (calls ++ [call])
      = history perform state calls ++ [(call, (perform (final perform state calls) call).1)] :=
  history_append ..

theorem map_fst_history (state : State) (calls : List Call) :
    (history perform state calls).map Prod.fst = calls := by
  induction calls generalizing state with
  | nil => rfl
  | cons call calls ih => rw [history, List.map_cons, ih]

variable {perform}

/-- What holds before any call, and is kept by each further call, holds after every run. -/
theorem induction {motive : List Call → List Answer → State → Prop} {start : State}
    (hnil : motive [] [] start)
    (hcall : ∀ calls answers state call, motive calls answers state →
      motive (calls ++ [call]) (answers ++ [(perform state call).1]) (perform state call).2)
    (calls : List Call) :
    motive calls (answers perform start calls) (final perform start calls) := by
  induction calls using List.reverseRecOn with
  | nil => exact hnil
  | append_singleton calls call ih =>
      rw [answers_snoc, final_snoc]
      exact hcall calls _ _ call ih

/-- What ties the state to the calls and answers so far, and is kept by each further call, does so after
every run. -/
theorem history_induction {motive : List (Call × Answer) → State → Prop} {start : State}
    (hnil : motive [] start)
    (hcall : ∀ history state call, motive history state →
      motive (history ++ [(call, (perform state call).1)]) (perform state call).2)
    (calls : List Call) :
    motive (history perform start calls) (final perform start calls) := by
  induction calls using List.reverseRecOn with
  | nil => exact hnil
  | append_singleton calls call ih =>
      rw [history_snoc, final_snoc]
      exact hcall _ _ call ih

/-- An invariant of each call is an invariant of every run. -/
theorem invariant {P : State → Prop} {start : State} (hstart : P start)
    (hcall : ∀ state call, P state → P (perform state call).2) (calls : List Call) :
    P (final perform start calls) :=
  induction (motive := fun _ _ state => P state) hstart
    (fun _ _ state call h => hcall state call h) calls

end LightPilot.Run
