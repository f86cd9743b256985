import Mathlib.Tactic.Common
import RemoteBatch.Proofs.Run.Stages

/-! The events of a run name the calls that reach the connector: a connector that keeps a list of
its calls ends a run with the list that can be read off the events. -/

namespace RemoteBatch.Run

variable {σ τ α : Type}

def Event.isCall : Event → Bool
  | .connect | .exec _ | .close => true
  | .log _ | .output _ => false

def Event.calls (es : List Event) : List Event := es.filter Event.isCall

@[simp] lemma Event.calls_append (es fs : List Event) :
    Event.calls (es ++ fs) = Event.calls es ++ Event.calls fs := by
  simp [Event.calls]

@[simp] lemma Event.calls_logEvents (logs : List LogEntry) : Event.calls (logEvents logs) = [] := by
  simp [Event.calls, logEvents, Event.isCall]

@[simp] lemma Event.calls_outputEvents (outputs : List Output) :
    Event.calls (outputEvents outputs) = [] := by
  simp [Event.calls, outputEvents, Event.isCall]

def Reply.mapState (f : σ → τ) (r : Reply σ α) : Reply τ α := ⟨r.value, r.logs, f r.state⟩

def Outcome.mapState (f : σ → τ) : Outcome σ α → Outcome τ α
  | .done reply => .done (reply.mapState f)
  | .stalls noticed logs state late => .stalls noticed logs (f state) (late.map (·.mapState f))

def Settled.mapState (f : σ → τ) : Settled σ α → Settled τ α
  | .value reply => .value (reply.mapState f)
  | .interrupted logs state => .interrupted logs (f state)
  | .never logs state => .never logs (f state)

lemma settle_mapState (f : σ → τ) (s : Shutdown) (o : Outcome σ α) :
    (o.mapState f).settle s = (o.settle s).mapState f := by
  cases o with
  | done reply => rfl
  | stalls noticed logs state late => cases s <;> cases noticed <;> cases late <;> rfl

def Connector.recorded (k : Connector σ) : Connector (σ × List Event) where
  connect s := (k.connect s.1).mapState (·, s.2 ++ [.connect])
  exec command s := (k.exec command s.1).mapState (·, s.2 ++ [.exec command])
  close s := (k.close s.1).mapState (·, s.2 ++ [.close])

variable (k : Connector σ) (shutdown : Shutdown)

lemma conclude_mapState (f : σ → τ) (index total : Nat) (command : String) (r : CommandResult)
    (sinks : Sinks) (state : σ) :
    conclude index total command r sinks (f state) =
      let s := conclude index total command r sinks state
      ⟨s.events, s.sinks, f s.state, s.next⟩ := by
  dsimp only
  rcases conclude_cases index total command r sinks with ⟨_, -, h⟩ | ⟨-, -, h⟩ | ⟨-, -, h⟩ <;>
    rw [h (f state), h state]

lemma calls_conclude (index total : Nat) (command : String) (r : CommandResult) (sinks : Sinks)
    (state : σ) : Event.calls (conclude index total command r sinks state).events = [] := by
  rcases conclude_cases index total command r sinks with ⟨_, -, h⟩ | ⟨-, -, h⟩ | ⟨-, -, h⟩ <;>
    simp [h]

lemma calls_step (index total : Nat) (command : String) (sinks : Sinks) (state : σ) :
    Event.calls (step k shutdown index total command sinks state).events = [.exec command] := by
  have start : Event.calls (announced index total command) = [.exec command] := rfl
  rcases h : (k.exec command state).settle shutdown with
    ⟨⟨cause | r, logs, s⟩⟩ | ⟨logs, s⟩ | ⟨logs, s⟩
  · simp [step_of_error k shutdown h, start]
  · simp [step_of_result k shutdown h, start, calls_conclude]
  · simp [step_of_interrupted k shutdown h, start]
  · simp [step_of_never k shutdown h, start]

lemma step_recorded (index total : Nat) (command : String) (sinks : Sinks) (state : σ)
    (calls : List Event) :
    step k.recorded shutdown index total command sinks (state, calls) =
      let s := step k shutdown index total command sinks state
      ⟨s.events, s.sinks, (s.state, calls ++ [.exec command]), s.next⟩ := by
  have he : (k.recorded.exec command (state, calls)).settle shutdown =
      ((k.exec command state).settle shutdown).mapState (·, calls ++ [.exec command]) :=
    settle_mapState _ _ _
  rcases h : (k.exec command state).settle shutdown with
    ⟨⟨cause | r, logs, s⟩⟩ | ⟨logs, s⟩ | ⟨logs, s⟩
  · rw [step_of_error k shutdown h, step_of_error k.recorded shutdown (he.trans (by rw [h]; rfl))]
  · rw [step_of_result k shutdown h, step_of_result k.recorded shutdown (he.trans (by rw [h]; rfl)),
      conclude_mapState (·, calls ++ [Event.exec command])]
  · rw [step_of_interrupted k shutdown h,
      step_of_interrupted k.recorded shutdown (he.trans (by rw [h]; rfl))]
  · rw [step_of_never k shutdown h, step_of_never k.recorded shutdown (he.trans (by rw [h]; rfl))]

lemma executeFrom_recorded (total index : Nat) (commands : List String) (sinks : Sinks)
    (state : σ) (calls : List Event) :
    executeFrom k.recorded shutdown total index commands sinks (state, calls) =
      let e := executeFrom k shutdown total index commands sinks state
      ⟨e.events, (e.state, calls ++ Event.calls e.events), e.result⟩ := by
  induction commands generalizing index sinks state calls with
  | nil => simp [executeFrom, Event.calls]
  | cons command rest ih =>
    simp only [executeFrom_cons, step_recorded]
    cases (step k shutdown index total command sinks state).next with
    | goOn r => simp only [ih, Event.calls_append, calls_step, List.append_assoc]
    | stop report => simp only [calls_step]
    | fail e => simp only [calls_step]
    | never => simp only [calls_step]

lemma calls_finish (state : σ) : Event.calls (finish k state).1 = [.close] := by
  change Event.calls ([.close] ++ logEvents _) = _
  rw [Event.calls_append, Event.calls_logEvents]
  rfl

lemma finish_recorded (state : σ) (calls : List Event) :
    finish k.recorded (state, calls) =
      ((finish k state).1, ((finish k state).2, calls ++ [.close])) := rfl

lemma run_recorded (commands : List String) (sinks : Sinks) (state : σ) :
    run k.recorded commands shutdown sinks (state, []) =
      let e := run k commands shutdown sinks state
      ⟨e.events, (e.state, Event.calls e.events), e.result⟩ := by
  have connected (logs : List LogEntry) :
      Event.calls (.connect :: logEvents logs) = [.connect] := by
    change Event.calls ([.connect] ++ logEvents logs) = _
    rw [Event.calls_append, Event.calls_logEvents]
    rfl
  have hc : (k.recorded.connect (state, [])).settle shutdown =
      ((k.connect state).settle shutdown).mapState (·, [.connect]) := settle_mapState _ _ _
  rcases h : (k.connect state).settle shutdown with
    ⟨⟨cause | _, logs, s⟩⟩ | ⟨logs, s⟩ | ⟨logs, s⟩
  · simp only [run_of_refused k shutdown h, connected,
      run_of_refused k.recorded shutdown (hc.trans (by rw [h]; rfl))]
  · have h' : (k.recorded.connect (state, [])).settle shutdown =
        .value ⟨.ok (), logs, (s, [.connect])⟩ := hc.trans (by rw [h]; rfl)
    have body : executeAll k.recorded shutdown commands sinks (s, [.connect]) = _ :=
      executeFrom_recorded k shutdown _ _ _ _ _ _
    cases hb : (executeAll k shutdown commands sinks s).result with
    | none =>
      rw [run_of_unended k shutdown h hb,
        run_of_unended k.recorded shutdown h' (by rw [body]; exact hb)]
      simp only [body, Event.calls_append, connected]
      rfl
    | some result =>
      rw [run_of_ended k shutdown h hb,
        run_of_ended k.recorded shutdown h' (by rw [body]; exact hb)]
      simp only [body, finish_recorded, Event.calls_append, connected, calls_finish]
      rfl
  · simp only [run_of_interrupted k shutdown h, connected,
      run_of_interrupted k.recorded shutdown (hc.trans (by rw [h]; rfl))]
  · simp only [run_of_never k shutdown h, connected,
      run_of_never k.recorded shutdown (hc.trans (by rw [h]; rfl))]

end RemoteBatch.Run
