import Mathlib.Tactic.Common
import RemoteBatch.Run.Runner

/-! The stages of a run, one equation for each way on: what a command comes to decides whether
another is run, and what the connector answers decides whether there is a session to close. -/

namespace RemoteBatch.Run

variable {σ : Type} (k : Connector σ) (shutdown : Shutdown)

def Settled.state {α : Type} : Settled σ α → σ
  | .value reply => reply.state
  | .interrupted _ state | .never _ state => state

def announced (index total : Nat) (command : String) : List Event :=
  [.log (Topic.run.debug s!"Executing command {index + 1}/{total}: {command}"), .exec command]

section Step

variable {index total : Nat} {command : String} {sinks : Sinks} {state s : σ}
  {logs : List LogEntry}

lemma step_of_never (h : (k.exec command state).settle shutdown = .never logs s) :
    step k shutdown index total command sinks state =
      ⟨announced index total command ++ logEvents logs, sinks, s, .never⟩ := by
  simp only [step, h, announced]

lemma step_of_interrupted (h : (k.exec command state).settle shutdown = .interrupted logs s) :
    step k shutdown index total command sinks state =
      ⟨announced index total command ++
          logEvents (logs ++ [Topic.run.warn "Interrupted, closing session"]),
        sinks, s, .fail .interrupted⟩ := by
  simp only [step, h, announced]

lemma step_of_error {cause : RunError}
    (h : (k.exec command state).settle shutdown = .value ⟨.error cause, logs, s⟩) :
    step k shutdown index total command sinks state =
      ⟨announced index total command ++ logEvents logs, sinks, s, .fail cause⟩ := by
  simp only [step, h, announced]

lemma step_of_result {r : CommandResult}
    (h : (k.exec command state).settle shutdown = .value ⟨.ok r, logs, s⟩) :
    step k shutdown index total command sinks state =
      let done := conclude index total command r sinks s
      { done with
        events := announced index total command ++ logEvents logs ++ done.events } := by
  simp only [step, h, announced]

end Step

lemma conclude_cases (index total : Nat) (command : String) (r : CommandResult) (sinks : Sinks) :
    let printed := sinks.performAll
      (r.printed ++ if r.success then [] else failureNotice command r.exitStatus)
    let stopping := logEvents [Topic.run.info s!"Stopping after command {index + 1} of {total}"]
    (∃ fault, printed.fault = some fault ∧
      ∀ {τ : Type} (state : τ), conclude index total command r sinks state =
        ⟨outputEvents printed.outputs, printed.sinks, state, .fail (.io fault.message)⟩) ∨
    (printed.fault = none ∧ r.success ∧
      ∀ {τ : Type} (state : τ), conclude index total command r sinks state =
        ⟨outputEvents printed.outputs, printed.sinks, state, .goOn r⟩) ∨
    (printed.fault = none ∧ r.success = false ∧
      ∀ {τ : Type} (state : τ), conclude index total command r sinks state =
        ⟨outputEvents printed.outputs ++ stopping, printed.sinks, state,
          .stop ⟨[r], .stopped index r.exitStatus⟩⟩) := by
  intro printed stopping
  cases hf : printed.fault with
  | some fault =>
    refine .inl ⟨fault, rfl, fun state => ?_⟩
    simp only [conclude]
    rw [hf]
  | none =>
    cases hr : r.success with
    | true =>
      refine .inr (.inl ⟨rfl, rfl, fun state => ?_⟩)
      simp only [conclude]
      rw [hf]
      exact if_pos hr
    | false =>
      refine .inr (.inr ⟨rfl, rfl, fun state => ?_⟩)
      simp only [conclude]
      rw [hf]
      exact if_neg (hr ▸ Bool.false_ne_true)

@[simp] lemma conclude_state (index total : Nat) (command : String) (r : CommandResult)
    (sinks : Sinks) (state : σ) : (conclude index total command r sinks state).state = state := by
  rcases conclude_cases index total command r sinks with ⟨_, -, h⟩ | ⟨-, -, h⟩ | ⟨-, -, h⟩ <;>
    rw [h]

lemma state_step (index total : Nat) (command : String) (sinks : Sinks) (state : σ) :
    (step k shutdown index total command sinks state).state =
      ((k.exec command state).settle shutdown).state := by
  rcases h : (k.exec command state).settle shutdown with
    ⟨⟨cause | r, logs, s⟩⟩ | ⟨logs, s⟩ | ⟨logs, s⟩
  · rw [step_of_error k shutdown h]
    rfl
  · rw [step_of_result k shutdown h]
    exact conclude_state ..
  · rw [step_of_interrupted k shutdown h]
    rfl
  · rw [step_of_never k shutdown h]
    rfl

lemma executeFrom_cons (total index : Nat) (command : String) (rest : List String)
    (sinks : Sinks) (state : σ) :
    executeFrom k shutdown total index (command :: rest) sinks state =
      let s := step k shutdown index total command sinks state
      match s.next with
      | .goOn r =>
        let later := executeFrom k shutdown total (index + 1) rest s.sinks s.state
        ⟨s.events ++ later.events, later.state, later.result.map (·.map (·.cons r))⟩
      | .stop report => ⟨s.events, s.state, some (.ok report)⟩
      | .fail e => ⟨s.events, s.state, some (.error e)⟩
      | .never => ⟨s.events, s.state, none⟩ := rfl

section Commands

variable {total index : Nat} {command : String} {rest : List String} {sinks : Sinks}
  {state s : σ} {logs : List LogEntry}

lemma executeFrom_of_never (h : (k.exec command state).settle shutdown = .never logs s) :
    executeFrom k shutdown total index (command :: rest) sinks state =
      ⟨announced index total command ++ logEvents logs, s, none⟩ := by
  rw [executeFrom_cons, step_of_never k shutdown h]

lemma executeFrom_of_interrupted
    (h : (k.exec command state).settle shutdown = .interrupted logs s) :
    executeFrom k shutdown total index (command :: rest) sinks state =
      ⟨announced index total command ++
          logEvents (logs ++ [Topic.run.warn "Interrupted, closing session"]),
        s, some (.error .interrupted)⟩ := by
  rw [executeFrom_cons, step_of_interrupted k shutdown h]

def Execution.behind (es : List Event) (r : CommandResult) (e : Execution σ) : Execution σ :=
  ⟨es ++ e.events, e.state, e.result.map (·.map (·.cons r))⟩

@[simp] lemma Execution.behind_state (es : List Event) (r : CommandResult) (e : Execution σ) :
    (e.behind es r).state = e.state := rfl

variable {k shutdown} {next : Step σ}
  (hs : step k shutdown index total command sinks state = next)

include hs

lemma executeFrom_of_goOn {r : CommandResult} (h : next.next = .goOn r) :
    executeFrom k shutdown total index (command :: rest) sinks state =
      (executeFrom k shutdown total (index + 1) rest next.sinks next.state).behind
        next.events r := by
  rw [executeFrom_cons, hs]
  simp only [h, Execution.behind]

lemma executeFrom_of_stop {report : Report} (h : next.next = .stop report) :
    executeFrom k shutdown total index (command :: rest) sinks state =
      ⟨next.events, next.state, some (.ok report)⟩ := by
  rw [executeFrom_cons, hs]
  simp only [h]

lemma executeFrom_of_fail {cause : RunError} (h : next.next = .fail cause) :
    executeFrom k shutdown total index (command :: rest) sinks state =
      ⟨next.events, next.state, some (.error cause)⟩ := by
  rw [executeFrom_cons, hs]
  simp only [h]

end Commands

section Run

variable {commands : List String} {sinks : Sinks} {state s : σ} {logs : List LogEntry}

lemma run_of_never (h : (k.connect state).settle shutdown = .never logs s) :
    run k commands shutdown sinks state = ⟨.connect :: logEvents logs, s, none⟩ := by
  simp only [run, h]

lemma run_of_interrupted (h : (k.connect state).settle shutdown = .interrupted logs s) :
    run k commands shutdown sinks state =
      ⟨.connect :: logEvents (logs ++ [Topic.run.warn "Interrupted while connecting"]), s,
        some (.error .interrupted)⟩ := by
  simp only [run, h]

lemma run_of_refused {cause : RunError}
    (h : (k.connect state).settle shutdown = .value ⟨.error cause, logs, s⟩) :
    run k commands shutdown sinks state =
      ⟨.connect :: logEvents logs, s, some (.error cause)⟩ := by
  simp only [run, h]

variable (h : (k.connect state).settle shutdown = .value ⟨.ok (), logs, s⟩)

include h

lemma run_of_unended (hb : (executeAll k shutdown commands sinks s).result = none) :
    run k commands shutdown sinks state =
      let body := executeAll k shutdown commands sinks s
      ⟨.connect :: logEvents logs ++ body.events, body.state, none⟩ := by
  simp only [run, h, hb]

lemma run_of_ended {result : Except RunError Report}
    (hb : (executeAll k shutdown commands sinks s).result = some result) :
    run k commands shutdown sinks state =
      let body := executeAll k shutdown commands sinks s
      ⟨.connect :: logEvents logs ++ body.events ++ (finish k body.state).1,
        (finish k body.state).2, some result⟩ := by
  simp only [run, h, hb]

end Run

end RemoteBatch.Run
