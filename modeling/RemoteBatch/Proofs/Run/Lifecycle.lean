import RemoteBatch.Proofs.Run.Calls
import RemoteBatch.Run.Scripted

/-! The life of a session. A run connects once and before all else. Without a session nothing
follows but log entries; a session is closed once, and behind that too nothing follows but log
entries. What the closing comes to is of no consequence. -/

namespace RemoteBatch.Run

variable {σ : Type}

def Event.ConnectsFirst (es : List Event) : Prop :=
  ∃ later, es = .connect :: later ∧ .connect ∉ later

def Event.Unopened (es : List Event) : Prop := ∃ logs, es = .connect :: logEvents logs

def Event.ClosedLast (es : List Event) : Prop :=
  ∃ before logs, es = .connect :: before ++ .close :: logEvents logs ∧
    .connect ∉ before ∧ .close ∉ before

def Connector.withClosing (k : Connector σ) (closing : σ → Except RunError Unit) : Connector σ :=
  { k with close := fun s => { k.close s with value := closing s } }

def Event.AtMostWarning (es : List Event) : Prop :=
  es = [] ∨ ∃ entry : LogEntry, entry.level = .warn ∧ es = [.log entry]

def Execution.AgreesButWarning (e e' : Execution σ) : Prop :=
  e'.result = e.result ∧ e'.state = e.state ∧ ∃ es w w', e.events = es ++ w ∧
    e'.events = es ++ w' ∧ Event.AtMostWarning w ∧ Event.AtMostWarning w'

lemma Execution.AgreesButWarning.refl (e : Execution σ) : e.AgreesButWarning e :=
  ⟨rfl, rfl, e.events, [], [], by simp, by simp, .inl rfl, .inl rfl⟩

lemma Event.mem_calls {e : Event} {es : List Event} : e ∈ Event.calls es ↔ e ∈ es ∧ e.isCall := by
  simp [Event.calls]

lemma Event.notMem_logEvents {e : Event} (h : e.isCall) (logs : List LogEntry) :
    e ∉ logEvents logs := by
  intro he
  obtain ⟨entry, -, rfl⟩ := List.mem_map.1 he
  simp [Event.isCall] at h

lemma Event.Unopened.connectsFirst {es : List Event} (h : Event.Unopened es) :
    Event.ConnectsFirst es := by
  obtain ⟨logs, rfl⟩ := h
  exact ⟨_, rfl, Event.notMem_logEvents rfl logs⟩

lemma Event.ClosedLast.connectsFirst {es : List Event} (h : Event.ClosedLast es) :
    Event.ConnectsFirst es := by
  obtain ⟨before, logs, rfl, hc, -⟩ := h
  refine ⟨before ++ .close :: logEvents logs, rfl, ?_⟩
  rw [List.mem_append, List.mem_cons, not_or, not_or]
  exact ⟨hc, by simp, Event.notMem_logEvents rfl logs⟩

variable (k : Connector σ) (shutdown : Shutdown)

lemma calls_executeFrom (total index : Nat) (commands : List String) (sinks : Sinks) (state : σ) :
    ∃ n, Event.calls (executeFrom k shutdown total index commands sinks state).events =
      (commands.take n).map .exec := by
  induction commands generalizing index sinks state with
  | nil => exact ⟨0, rfl⟩
  | cons command rest ih =>
    rw [executeFrom_cons]
    dsimp only
    cases (step k shutdown index total command sinks state).next with
    | goOn r =>
      obtain ⟨n, hn⟩ := ih (index + 1) (step k shutdown index total command sinks state).sinks
        (step k shutdown index total command sinks state).state
      exact ⟨n + 1, by simp [calls_step, hn]⟩
    | stop report => exact ⟨1, by simp [calls_step]⟩
    | fail e => exact ⟨1, by simp [calls_step]⟩
    | never => exact ⟨1, by simp [calls_step]⟩

lemma notMem_executeAll {e : Event} (hc : e = .connect ∨ e = .close) (commands : List String)
    (sinks : Sinks) (state : σ) :
    e ∉ (executeAll k shutdown commands sinks state).events := by
  intro he
  obtain ⟨n, hn⟩ := calls_executeFrom k shutdown commands.length 0 commands sinks state
  have hm : e ∈ Event.calls (executeAll k shutdown commands sinks state).events :=
    Event.mem_calls.2 ⟨he, by rcases hc with rfl | rfl <;> rfl⟩
  rw [executeAll, hn] at hm
  obtain ⟨command, -, rfl⟩ := List.mem_map.1 hm
  simp at hc

lemma executeFrom_withClosing (closing : σ → Except RunError Unit) (total index : Nat)
    (commands : List String) (sinks : Sinks) (state : σ) :
    executeFrom (k.withClosing closing) shutdown total index commands sinks state =
      executeFrom k shutdown total index commands sinks state := by
  induction commands generalizing index sinks state with
  | nil => rfl
  | cons command rest ih =>
    have hs : step (k.withClosing closing) shutdown index total command sinks state =
        step k shutdown index total command sinks state := rfl
    simp only [executeFrom_cons, hs, ih]

section Opened

variable {commands : List String} {sinks : Sinks} {state s : σ} {logs : List LogEntry}
  {result : Except RunError Report}

lemma run_closedLast (h : (k.connect state).settle shutdown = .value ⟨.ok (), logs, s⟩)
    (hb : (executeAll k shutdown commands sinks s).result = some result) :
    Event.ClosedLast (run k commands shutdown sinks state).events := by
  rw [run_of_ended k shutdown h hb]
  refine ⟨logEvents logs ++ (executeAll k shutdown commands sinks s).events, _, rfl, ?_, ?_⟩
  · rw [List.mem_append, not_or]
    exact ⟨Event.notMem_logEvents rfl logs, notMem_executeAll k shutdown (.inl rfl) _ _ _⟩
  · rw [List.mem_append, not_or]
    exact ⟨Event.notMem_logEvents rfl logs, notMem_executeAll k shutdown (.inr rfl) _ _ _⟩

end Opened

lemma finish_events (state : σ) : ∃ w, Event.AtMostWarning w ∧
    (finish k state).1 = .close :: logEvents (k.close state).logs ++ w := by
  cases h : (k.close state).value with
  | ok _ => exact ⟨[], .inl rfl, by simp [finish, h]⟩
  | error e =>
    refine ⟨[.log (Topic.run.warn s!"Failed to close session cleanly: {e.message}")],
      .inr ⟨_, rfl, rfl⟩, ?_⟩
    simp [finish, h, logEvents]

lemma run_withClosing (closing : σ → Except RunError Unit) (commands : List String)
    (sinks : Sinks) (state : σ) :
    (run k commands shutdown sinks state).AgreesButWarning
      (run (k.withClosing closing) commands shutdown sinks state) := by
  have hc : (k.withClosing closing).connect = k.connect := rfl
  rcases h : (k.connect state).settle shutdown with
    ⟨⟨cause | _, logs, s⟩⟩ | ⟨logs, s⟩ | ⟨logs, s⟩
  · rw [run_of_refused k shutdown h, run_of_refused (k.withClosing closing) shutdown (hc ▸ h)]
    exact .refl _
  · have body : executeAll (k.withClosing closing) shutdown commands sinks s =
        executeAll k shutdown commands sinks s :=
      executeFrom_withClosing k shutdown closing _ _ _ _ _
    cases hb : (executeAll k shutdown commands sinks s).result with
    | none =>
      rw [run_of_unended k shutdown h hb,
        run_of_unended (k.withClosing closing) shutdown (hc ▸ h) (body ▸ hb), body]
      exact .refl _
    | some result =>
      rw [run_of_ended k shutdown h hb,
        run_of_ended (k.withClosing closing) shutdown (hc ▸ h) (body ▸ hb), body]
      generalize executeAll k shutdown commands sinks s = body
      obtain ⟨w, hw, he⟩ := finish_events k body.state
      obtain ⟨w', hw', he'⟩ := finish_events (k.withClosing closing) body.state
      refine ⟨rfl, rfl, .connect :: logEvents logs ++ body.events ++
        (.close :: logEvents (k.close body.state).logs), w, w', ?_, ?_, hw, hw'⟩
      · simp only [he, List.append_assoc]
      · simp only [he', List.append_assoc]
        rfl
  · rw [run_of_interrupted k shutdown h,
      run_of_interrupted (k.withClosing closing) shutdown (hc ▸ h)]
    exact .refl _
  · rw [run_of_never k shutdown h, run_of_never (k.withClosing closing) shutdown (hc ▸ h)]
    exact .refl _

/-- Every run that ends connects once, before all else, and what it asks of the connector is what
its events say. A connector that gives no session ends the run with its own error; a session is
closed once, behind everything else, and the run is the same whatever closing comes to, but for a
warning. -/
theorem run_closes_session_once (k : Connector σ) (commands : List String) (shutdown : Shutdown)
    (sinks : Sinks) (state : σ) (result : Except RunError Report)
    (h : (run k commands shutdown sinks state).result = some result) :
    let e := run k commands shutdown sinks state
    (run k.recorded commands shutdown sinks (state, [])).state.2 = Event.calls e.events ∧
    Event.ConnectsFirst e.events ∧
    (match (k.connect state).settle shutdown with
      | .value ⟨.ok (), _, _⟩ => Event.ClosedLast e.events
      | .value ⟨.error cause, _, _⟩ => result = .error cause ∧ Event.Unopened e.events
      | .interrupted _ _ => result = .error .interrupted ∧ Event.Unopened e.events
      | .never _ _ => False) ∧
    ∀ closing, e.AgreesButWarning (run (k.withClosing closing) commands shutdown sinks state) := by
  refine ⟨by rw [run_recorded], ?_⟩
  rw [← and_assoc]
  refine ⟨?_, fun closing => run_withClosing k shutdown closing _ _ _⟩
  rcases hc : (k.connect state).settle shutdown with
    ⟨⟨cause | _, logs, s⟩⟩ | ⟨logs, s⟩ | ⟨logs, s⟩
  · rw [run_of_refused k shutdown hc, Option.some.injEq] at h
    have hu : Event.Unopened (run k commands shutdown sinks state).events :=
      ⟨_, by rw [run_of_refused k shutdown hc]⟩
    exact ⟨hu.connectsFirst, h.symm, hu⟩
  · cases hb : (executeAll k shutdown commands sinks s).result with
    | none =>
      rw [run_of_unended k shutdown hc hb] at h
      cases h
    | some r =>
      have hl := run_closedLast k shutdown hc hb
      exact ⟨hl.connectsFirst, hl⟩
  · rw [run_of_interrupted k shutdown hc, Option.some.injEq] at h
    have hu : Event.Unopened (run k commands shutdown sinks state).events :=
      ⟨_, by rw [run_of_interrupted k shutdown hc]⟩
    exact ⟨hu.connectsFirst, h.symm, hu⟩
  · rw [run_of_never k shutdown hc] at h
    cases h

theorem run_closes_session_once_interrupted :
    let k := scripted .session (some (.connection "lost"))
    let e := run k ["a", "b", "c"] (.onStall []) ⟨.limited 9 .tookNothing, .endless⟩
      [.result "x" "" 0, .hang]
    e.result = some (.error .interrupted) ∧ Event.ClosedLast e.events ∧
      e.AgreesButWarning (run (k.withClosing fun _ => .ok ()) ["a", "b", "c"] (.onStall [])
        ⟨.limited 9 .tookNothing, .endless⟩ [.result "x" "" 0, .hang]) := by
  intro k e
  have h : e.result = some (.error .interrupted) := by rfl
  obtain ⟨-, -, hl, hw⟩ := run_closes_session_once k _ _ _ _ _ h
  exact ⟨h, hl, hw _⟩

end RemoteBatch.Run
