import RemoteBatch.Proofs.Run.Calls

/-! Log entries that report an error. Of a connector that logs one only when it refuses a session, a
run logs one only when it ends with the refusal, and then just when the connector does; what goes
wrong later is another kind of error and is not logged as one. -/

namespace RemoteBatch

def Calm (logs : List LogEntry) : Prop := ∀ entry ∈ logs, entry.level ≠ .error

@[simp] lemma calm_nil : Calm [] := by simp [Calm]

@[simp] lemma calm_cons {entry : LogEntry} {logs : List LogEntry} :
    Calm (entry :: logs) ↔ entry.level ≠ .error ∧ Calm logs := by
  simp [Calm]

@[simp] lemma calm_append {logs logs' : List LogEntry} :
    Calm (logs ++ logs') ↔ Calm logs ∧ Calm logs' := by
  simp [Calm, or_imp, forall_and]

lemma not_calm_iff {logs : List LogEntry} :
    ¬Calm logs ↔ ∃ entry ∈ logs, entry.level = .error := by
  simp [Calm]

namespace Run

variable {σ α : Type}

def isMidRun : RunError → Bool
  | .channel _ | .timeout _ | .io _ | .interrupted => true
  | _ => false

lemma not_isFatalConnect_of_isMidRun {cause : RunError} (h : isMidRun cause) :
    cause.isFatalConnect = false := by
  cases cause <;> first | rfl | cases h

def Outcome.Ends (P : α → List LogEntry → Prop) : Outcome σ α → Prop
  | .done reply => P reply.value reply.logs
  | .stalls _ logs _ late => Calm logs ∧ ∀ reply ∈ late, P reply.value reply.logs

def Settled.Ends (P : α → List LogEntry → Prop) : Settled σ α → Prop
  | .value reply => P reply.value reply.logs
  | .interrupted logs _ | .never logs _ => Calm logs

/-- A session is given calmly, or refused with an alarm unless that is `quiet`. -/
def Opening.Fits (quiet : Prop) (value : Except RunError Unit) (logs : List LogEntry) : Prop :=
  match value with
  | .ok () => Calm logs
  | .error cause => cause.isFatalConnect ∧ (Calm logs ↔ quiet)

def Answer.Fits (value : Except RunError CommandResult) (logs : List LogEntry) : Prop :=
  Calm logs ∧ ∀ cause, value = .error cause → isMidRun cause

lemma Opening.Fits.congr {quiet : Prop} {value : Except RunError Unit} {logs logs' : List LogEntry}
    (h : Opening.Fits quiet value logs) (hc : Calm logs' ↔ Calm logs) :
    Opening.Fits quiet value logs' := by
  rcases value with cause | _
  · exact ⟨h.1, hc.trans h.2⟩
  · exact hc.2 h

lemma Opening.Fits.append {quiet : Prop} {value : Except RunError Unit}
    {logs before : List LogEntry} (h : Opening.Fits quiet value logs) (hb : Calm before) :
    Opening.Fits quiet value (before ++ logs) :=
  h.congr (by simp [hb])

lemma Answer.Fits.append {value : Except RunError CommandResult} {logs before : List LogEntry}
    (h : Answer.Fits value logs) (hb : Calm before) : Answer.Fits value (before ++ logs) :=
  ⟨calm_append.2 ⟨hb, h.1⟩, h.2⟩

structure Connector.Alarms (k : Connector σ) (quiet : σ → Prop) : Prop where
  connect : ∀ state, (k.connect state).Ends (Opening.Fits (quiet state))
  exec : ∀ command state, (k.exec command state).Ends Answer.Fits
  close : ∀ state, Calm (k.close state).logs

def Shutdown.Calm (shutdown : Shutdown) : Prop :=
  ∀ notice, shutdown = .onStall notice → RemoteBatch.Calm notice

lemma Outcome.Ends.settle {P : α → List LogEntry → Prop} {o : Outcome σ α} (h : o.Ends P)
    (happend : ∀ {value logs before}, P value logs → Calm before → P value (before ++ logs))
    {shutdown : Shutdown} (hs : shutdown.Calm) : (o.settle shutdown).Ends P := by
  cases o with
  | done reply => exact h
  | stalls noticed logs state late =>
    obtain ⟨hl, hlate⟩ := h
    rcases shutdown with _ | notice <;> rcases noticed with _ | _ <;> rcases late with _ | reply
    all_goals first
      | exact hl
      | exact happend (hlate reply rfl) hl
      | exact calm_append.2 ⟨hl, hs notice rfl⟩

@[simp] lemma logs_logEvents (logs : List LogEntry) : Event.logs (logEvents logs) = logs := by
  simp [Event.logs, logEvents, Event.logEntry?, Function.comp_def]

@[simp] lemma logs_outputEvents (outputs : List Output) :
    Event.logs (outputEvents outputs) = [] := by
  simp [Event.logs, outputEvents, Event.logEntry?]

@[simp] lemma logs_connected (logs : List LogEntry) :
    Event.logs (.connect :: logEvents logs) = logs :=
  logs_logEvents logs

lemma calm_announced (index total : Nat) (command : String) :
    Calm (Event.logs (announced index total command)) := by
  change Calm [Topic.run.debug _]
  simp [Topic.debug]

variable {k : Connector σ} {quiet : σ → Prop} {shutdown : Shutdown}

lemma conclude_fits (index total : Nat) (command : String) (r : CommandResult) (sinks : Sinks)
    (state : σ) :
    let s := conclude index total command r sinks state
    Calm (Event.logs s.events) ∧ ∀ cause, s.next = .fail cause → isMidRun cause := by
  rcases conclude_cases index total command r sinks with ⟨fault, -, h⟩ | ⟨-, -, h⟩ | ⟨-, -, h⟩
  · rw [h]
    refine ⟨by simp, ?_⟩
    rintro _ ⟨⟩
    rfl
  · rw [h]
    exact ⟨by simp, nofun⟩
  · rw [h]
    exact ⟨by simp [Topic.info], nofun⟩

lemma step_fits (hk : k.Alarms quiet) (hs : shutdown.Calm) (index total : Nat) (command : String)
    (sinks : Sinks) (state : σ) :
    let s := step k shutdown index total command sinks state
    Calm (Event.logs s.events) ∧ ∀ cause, s.next = .fail cause → isMidRun cause := by
  intro s
  have ha := calm_announced index total command
  have he : ((k.exec command state).settle shutdown).Ends Answer.Fits :=
    (hk.exec command state).settle Answer.Fits.append hs
  rcases h : (k.exec command state).settle shutdown with
    ⟨⟨cause | r, logs, s'⟩⟩ | ⟨logs, s'⟩ | ⟨logs, s'⟩
  · rw [h] at he
    have hstep : s = _ := step_of_error k shutdown h
    rw [hstep]
    refine ⟨by simp [ha, he.1], ?_⟩
    rintro _ ⟨⟩
    exact he.2 cause rfl
  · rw [h] at he
    obtain ⟨hc, hn⟩ := conclude_fits index total command r sinks s'
    have hstep : s = _ := step_of_result k shutdown h
    rw [hstep]
    exact ⟨by simpa [ha, he.1] using hc, hn⟩
  · rw [h] at he
    have hl : Calm logs := he
    have hstep : s = _ := step_of_interrupted k shutdown h
    rw [hstep]
    refine ⟨by simp [ha, hl, Topic.warn], ?_⟩
    rintro _ ⟨⟩
    rfl
  · rw [h] at he
    have hl : Calm logs := he
    have hstep : s = _ := step_of_never k shutdown h
    rw [hstep]
    exact ⟨by simp [ha, hl], nofun⟩

lemma executeFrom_fits (hk : k.Alarms quiet) (hs : shutdown.Calm) (total index : Nat)
    (commands : List String) (sinks : Sinks) (state : σ) :
    let e := executeFrom k shutdown total index commands sinks state
    Calm (Event.logs e.events) ∧ ∀ cause, e.result = some (.error cause) → isMidRun cause := by
  induction commands generalizing index sinks state with
  | nil => exact ⟨calm_nil, nofun⟩
  | cons command rest ih =>
    obtain ⟨hc, hn⟩ := step_fits hk hs index total command sinks state
    rw [executeFrom_cons]
    dsimp only
    cases h : (step k shutdown index total command sinks state).next with
    | goOn r =>
      obtain ⟨hc', hr'⟩ := ih (index + 1) (step k shutdown index total command sinks state).sinks
        (step k shutdown index total command sinks state).state
      refine ⟨by simpa using ⟨hc, hc'⟩, fun cause hcause => ?_⟩
      obtain ⟨later, hl, hm⟩ := Option.map_eq_some_iff.1 hcause
      cases later with
      | error cause' =>
        cases hm
        exact hr' cause hl
      | ok report => cases hm
    | stop report => exact ⟨hc, nofun⟩
    | fail cause =>
      refine ⟨hc, ?_⟩
      rintro _ ⟨⟩
      exact hn cause h
    | never => exact ⟨hc, nofun⟩

lemma finish_calm (hk : k.Alarms quiet) (state : σ) : Calm (Event.logs (finish k state).1) := by
  change Calm (Event.logs (logEvents _))
  rw [logs_logEvents, calm_append]
  refine ⟨hk.close state, ?_⟩
  cases (k.close state).value <;> simp [Topic.warn]

lemma run_fits (hk : k.Alarms quiet) (hs : shutdown.Calm) (commands : List String) (sinks : Sinks)
    (state : σ) :
    let e := run k commands shutdown sinks state
    (∃ cause logs s, (k.connect state).settle shutdown = .value ⟨.error cause, logs, s⟩ ∧
      e = ⟨.connect :: logEvents logs, s, some (.error cause)⟩ ∧
      cause.isFatalConnect ∧ (Calm (Event.logs e.events) ↔ quiet state)) ∨
    ((∀ cause logs s, (k.connect state).settle shutdown ≠ .value ⟨.error cause, logs, s⟩) ∧
      Calm (Event.logs e.events) ∧
      ∀ cause, e.result = some (.error cause) → isMidRun cause) := by
  intro e
  have ho : ((k.connect state).settle shutdown).Ends (Opening.Fits (quiet state)) :=
    (hk.connect state).settle Opening.Fits.append hs
  rcases h : (k.connect state).settle shutdown with
    ⟨⟨cause | _, logs, s⟩⟩ | ⟨logs, s⟩ | ⟨logs, s⟩
  · rw [h] at ho
    have he : e = _ := run_of_refused k shutdown h
    refine .inl ⟨cause, logs, s, rfl, he, ho.1, ?_⟩
    rw [he, logs_connected]
    exact ho.2
  · rw [h] at ho
    have hl : Calm logs := ho
    obtain ⟨hc, hr⟩ := executeFrom_fits hk hs commands.length 0 commands sinks s
    refine .inr ⟨nofun, ?_⟩
    cases hb : (executeAll k shutdown commands sinks s).result with
    | none =>
      have he : e = _ := run_of_unended k shutdown h hb
      rw [he]
      refine ⟨?_, nofun⟩
      rw [Event.logs_append, logs_connected]
      exact calm_append.2 ⟨hl, hc⟩
    | some result =>
      have he : e = _ := run_of_ended k shutdown h hb
      have hf := finish_calm hk (executeAll k shutdown commands sinks s).state
      rw [he]
      refine ⟨?_, ?_⟩
      · rw [Event.logs_append, Event.logs_append, logs_connected, calm_append, calm_append]
        exact ⟨⟨hl, hc⟩, hf⟩
      · rintro cause ⟨⟩
        exact hr cause hb
  · rw [h] at ho
    have hl : Calm logs := ho
    have he : e = _ := run_of_interrupted k shutdown h
    refine .inr ⟨nofun, ?_⟩
    rw [he]
    refine ⟨by simp [hl, Topic.warn], ?_⟩
    rintro _ ⟨⟩
    rfl
  · rw [h] at ho
    have hl : Calm logs := ho
    have he : e = _ := run_of_never k shutdown h
    refine .inr ⟨nofun, ?_⟩
    rw [he]
    exact ⟨by simp [hl], nofun⟩

end Run

end RemoteBatch
