import RemoteBatch.Proofs.Run.Calls
import RemoteBatch.Remote.Session
import RemoteBatch.Run.Connector
import RemoteBatch.Run.Scripted

/-! What a run reports. The answers that the commands would get in turn are laid out as a list; the
first that is an error or has another status than 0 is where the run stops, and the report holds
the answers up to there. -/

namespace RemoteBatch.Run

variable {σ : Type}

def Connector.answers (k : Connector σ) (shutdown : Shutdown) :
    List String → σ → List (Except RunError CommandResult)
  | [], _ => []
  | command :: rest, state =>
    match (k.exec command state).settle shutdown with
    | .value reply => reply.value :: k.answers shutdown rest reply.state
    | .interrupted _ _ | .never _ _ => []

def isHalting : Except RunError CommandResult → Bool
  | .ok r => !r.success
  | .error _ => true

def AnswersAll (commands : List String) (answers : List (Except RunError CommandResult)) : Prop :=
  answers.any isHalting ∨ answers.length = commands.length

def Execution.Reports (e : Execution σ) (index : Nat) (commands : List String)
    (answers : List (Except RunError CommandResult)) : Prop :=
  match answers.findIdx? isHalting with
  | none => Event.commands e.events = commands ∧
      ∃ results, answers = results.map .ok ∧ e.result = some (.ok ⟨results, .completed⟩)
  | some i => Event.commands e.events = commands.take (i + 1) ∧
      match answers[i]? with
      | none => False
      | some (.error cause) => e.result = some (.error cause)
      | some (.ok r) => ∃ results, answers.take (i + 1) = results.map .ok ∧
          e.result = some (.ok ⟨results, .stopped (index + i) r.exitStatus⟩)

lemma Event.commands_eq_calls (es : List Event) :
    Event.commands es = (Event.calls es).filterMap Event.command? := by
  rw [Event.commands, Event.calls, List.filterMap_filter]
  congr 1
  funext e
  cases e <;> rfl

variable (k : Connector σ) (shutdown : Shutdown)

@[simp] lemma commands_step (index total : Nat) (command : String) (sinks : Sinks) (state : σ) :
    Event.commands (step k shutdown index total command sinks state).events = [command] := by
  rw [Event.commands_eq_calls, calls_step]
  rfl

lemma conclude_endless (index total : Nat) (command : String) (r : CommandResult) (state : σ) :
    (conclude index total command r {} state).sinks = {} ∧
      (conclude index total command r {} state).next =
        if r.success then .goOn r else .stop ⟨[r], .stopped index r.exitStatus⟩ := by
  rcases conclude_cases index total command r {} with ⟨_, hf, -⟩ | ⟨-, hr, h⟩ | ⟨-, hr, h⟩
  · rw [Sinks.performAll_endless] at hf
    cases hf
  · simp [h, hr]
  · simp [h, hr]

lemma Execution.Reports.cons {e : Execution σ} {index : Nat} {commands : List String}
    {answers : List (Except RunError CommandResult)} (h : e.Reports (index + 1) commands answers)
    {r : CommandResult} (hr : r.success) {es : List Event} {command : String}
    (hes : Event.commands es = [command]) (s : σ) :
    Execution.Reports ⟨es ++ e.events, s, e.result.map (·.map (·.cons r))⟩ index
      (command :: commands) (.ok r :: answers) := by
  have hh : isHalting (.ok r) = false := by simp [isHalting, hr]
  unfold Execution.Reports at *
  -- The first halting answer stands one place further on.
  rw [List.findIdx?_cons, hh]
  cases hf : answers.findIdx? isHalting with
  | none =>
    rw [hf] at h
    obtain ⟨hc, results, ha, he⟩ := h
    refine ⟨by simp [hes, hc], r :: results, by simp [ha], ?_⟩
    simp [he, Except.map, Report.cons]
  | some i =>
    rw [hf] at h
    obtain ⟨hc, ha⟩ := h
    refine ⟨by simp [hes, hc], ?_⟩
    simp only [List.getElem?_cons_succ]
    rcases hi : answers[i]? with _ | ⟨cause | last⟩
    · rw [hi] at ha
      exact ha
    · rw [hi] at ha
      simp [ha, Except.map]
    · rw [hi] at ha
      obtain ⟨results, ht, he⟩ := ha
      refine ⟨r :: results, by simp [ht], ?_⟩
      simp [he, Except.map, Report.cons]
      omega

lemma executeFrom_reports (total index : Nat) (commands : List String) (state : σ)
    (h : AnswersAll commands (k.answers shutdown commands state)) :
    (executeFrom k shutdown total index commands {} state).Reports index commands
      (k.answers shutdown commands state) := by
  induction commands generalizing index state with
  | nil => exact ⟨rfl, [], rfl, rfl⟩
  | cons command rest ih =>
    rcases he : (k.exec command state).settle shutdown with
      ⟨⟨cause | r, logs, s⟩⟩ | ⟨logs, s⟩ | ⟨logs, s⟩
    · have hs : step k shutdown index total command {} state = _ :=
        step_of_error k shutdown he
      have hc := commands_step k shutdown index total command {} state
      simp only [Connector.answers, he, executeFrom_cons, hs] at hc ⊢
      exact ⟨by simpa using hc, rfl⟩
    · have hs : step k shutdown index total command {} state = _ :=
        step_of_result k shutdown he
      have hc := commands_step k shutdown index total command {} state
      obtain ⟨hsinks, hnext⟩ := conclude_endless index total command r s
      simp only [Connector.answers, he] at h ⊢
      cases hr : r.success with
      | true =>
        rw [hr, if_pos rfl] at hnext
        simp only [executeFrom_cons, hs, hsinks, hnext, conclude_state] at hc ⊢
        refine (ih (index + 1) s ?_).cons hr hc _
        simpa [AnswersAll, isHalting, hr] using h
      | false =>
        rw [hr, if_neg Bool.false_ne_true] at hnext
        simp only [executeFrom_cons, hs, hnext] at hc ⊢
        have hh : isHalting (.ok r) = true := by simp [isHalting, hr]
        unfold Execution.Reports
        rw [List.findIdx?_cons, hh]
        exact ⟨by simpa using hc, [r], rfl, rfl⟩
    · simp [AnswersAll, Connector.answers, he] at h
    · simp [AnswersAll, Connector.answers, he] at h

def Outcome.Yields {α : Type} (o : Outcome σ α) (a : α) : Prop :=
  match o with
  | .done reply => reply.value = a
  | .stalls _ _ _ late => ∃ reply ∈ late, reply.value = a

lemma Outcome.yields_of_settle {α : Type} {o : Outcome σ α} {reply : Reply σ α}
    (h : o.settle shutdown = .value reply) : o.Yields reply.value := by
  cases o with
  | done r =>
    cases h
    rfl
  | stalls noticed logs state late =>
    simp only [Outcome.settle] at h
    split at h
    · cases h
    · cases h
      exact ⟨_, rfl, rfl⟩
    · cases h

def Connector.Echoes (k : Connector σ) : Prop :=
  ∀ command state r, (k.exec command state).Yields (.ok r) → r.command = command

def Connector.NamesExecuted (k : Connector σ) : Prop :=
  ∀ commands shutdown sinks state report,
    (run k commands shutdown sinks state).result = some (.ok report) →
      report.results.map CommandResult.command =
        Event.commands (run k commands shutdown sinks state).events

def Next.Names (command : String) : Next → Prop
  | .goOn r => r.command = command
  | .stop report => report.results.map CommandResult.command = [command]
  | .fail _ | .never => True

lemma conclude_names {command : String} {r : CommandResult} (hr : r.command = command)
    (index total : Nat) (sinks : Sinks) (state : σ) :
    (conclude index total command r sinks state).next.Names command := by
  rcases conclude_cases index total command r sinks with ⟨_, -, h⟩ | ⟨-, -, h⟩ | ⟨-, -, h⟩ <;>
    rw [h]
  · trivial
  · exact hr
  · exact congrArg (fun c => [c]) hr

variable {k}

lemma step_names (hk : k.Echoes) (index total : Nat) (command : String) (sinks : Sinks)
    (state : σ) : (step k shutdown index total command sinks state).next.Names command := by
  rcases h : (k.exec command state).settle shutdown with
    ⟨⟨cause | r, logs, s⟩⟩ | ⟨logs, s⟩ | ⟨logs, s⟩
  · rw [step_of_error k shutdown h]
    trivial
  · have hr : r.command = command := hk command state r (Outcome.yields_of_settle shutdown h)
    rw [step_of_result k shutdown h]
    exact conclude_names hr index total sinks s
  · rw [step_of_interrupted k shutdown h]
    trivial
  · rw [step_of_never k shutdown h]
    trivial

lemma executeFrom_names (hk : k.Echoes) (total index : Nat) (commands : List String)
    (sinks : Sinks) (state : σ) {report : Report}
    (h : (executeFrom k shutdown total index commands sinks state).result = some (.ok report)) :
    report.results.map CommandResult.command =
      Event.commands (executeFrom k shutdown total index commands sinks state).events := by
  induction commands generalizing index sinks state report with
  | nil =>
    cases h
    rfl
  | cons command rest ih =>
    have hn := step_names shutdown hk index total command sinks state
    have hc := commands_step k shutdown index total command sinks state
    rw [executeFrom_cons] at h ⊢
    dsimp only at h ⊢
    cases hs : (step k shutdown index total command sinks state).next with
    | goOn r =>
      rw [hs] at h hn
      obtain ⟨later, hl, hm⟩ := Option.map_eq_some_iff.1 h
      cases later with
      | error e => cases hm
      | ok later =>
        cases hm
        have hr : r.command = command := hn
        simp [Report.cons, hr, hc, ih _ _ _ hl]
    | stop stopped =>
      rw [hs] at h hn
      cases h
      exact hn.trans hc.symm
    | fail e =>
      rw [hs] at h
      cases h
    | never =>
      rw [hs] at h
      cases h

lemma commands_enclosed (logs : List LogEntry) (state : σ) (es : List Event) :
    Event.commands (.connect :: logEvents logs ++ es ++ (finish k state).1) =
      Event.commands es := by
  have hs : Event.commands (.connect :: logEvents logs) = [] := by
    simp [Event.commands, logEvents, Event.command?]
  have hf : Event.commands (finish k state).1 = [] := by
    rw [Event.commands_eq_calls, calls_finish]
    rfl
  rw [Event.commands_append, Event.commands_append, hs, hf, List.nil_append, List.append_nil]

lemma Connector.Echoes.namesExecuted (hk : k.Echoes) : k.NamesExecuted := by
  intro commands shutdown sinks state report h
  rcases hc : (k.connect state).settle shutdown with
    ⟨⟨cause | _, logs, s⟩⟩ | ⟨logs, s⟩ | ⟨logs, s⟩
  · rw [run_of_refused k shutdown hc] at h
    cases h
  · cases hb : (executeAll k shutdown commands sinks s).result with
    | none =>
      rw [run_of_unended k shutdown hc hb] at h
      cases h
    | some result =>
      rw [run_of_ended k shutdown hc hb] at h ⊢
      cases h
      rw [commands_enclosed]
      exact executeFrom_names shutdown hk _ _ _ _ _ hb
  · rw [run_of_interrupted k shutdown hc] at h
    cases h
  · rw [run_of_never k shutdown hc] at h
    cases h

lemma dryRun_echoes (target : String) : (dryRun target).Echoes := by
  intro command state r h
  cases h
  rfl

lemma result_command {g : Remote.Gathered} {command : String} {r : CommandResult}
    (h : g.result command = .ok r) : r.command = command := by
  unfold Remote.Gathered.result at h
  split at h
  · cases h
  · cases h
    rfl

lemma await_echoes {command : String} {s : Remote.Session} {script : List Remote.ChannelEvent}
    {c : Remote.Client} {r : CommandResult}
    (h : (Remote.await command s script c).Yields (.ok r)) : r.command = command := by
  unfold Remote.await at h
  dsimp only at h
  split at h
  · exact result_command h
  · exact result_command h
  · obtain ⟨reply, hm, hv⟩ := h
    obtain ⟨limit, -, rfl⟩ := Option.map_eq_some_iff.1 hm
    cases hv

lemma send_echoes {command : String} {s : Remote.Session} {c : Remote.Client} {r : CommandResult}
    (h : (Remote.send command s c).Yields (.ok r)) : r.command = command := by
  unfold Remote.send at h
  dsimp only at h
  split at h
  · cases h
  · exact await_echoes h

lemma connector_echoes (net : Remote.Network) (target : Remote.Target) :
    (Remote.connector net target).Echoes := by
  intro command c r h
  change (Remote.exec command c).Yields (.ok r) at h
  rcases Remote.exec_cases command c with ⟨ses, he⟩ | ⟨c', ⟨reason, he⟩ | he, -⟩ <;> rw [he] at h
  · exact send_echoes h
  · cases h
  · obtain ⟨reply, hlate, -⟩ := h
    cases hlate

section Reports

variable {τ : Type} {e : Execution σ} {index : Nat} {commands : List String}
  {answers : List (Except RunError CommandResult)}

lemma Execution.Reports.ends (h : e.Reports index commands answers) :
    ∃ result, e.result = some result := by
  unfold Execution.Reports at h
  split at h
  · obtain ⟨-, results, -, he⟩ := h
    exact ⟨_, he⟩
  · obtain ⟨-, h⟩ := h
    split at h
    · exact h.elim
    · exact ⟨_, h⟩
    · obtain ⟨results, -, he⟩ := h
      exact ⟨_, he⟩

lemma Execution.Reports.congr (h : e.Reports index commands answers) {f : Execution τ}
    (hc : Event.commands f.events = Event.commands e.events) (hr : f.result = e.result) :
    f.Reports index commands answers := by
  unfold Execution.Reports at *
  rw [hc, hr]
  exact h

lemma exitStatus_of_not_isHalting {a : Except RunError CommandResult} (h : isHalting a = false) :
    ∃ r, a = .ok r ∧ r.exitStatus = 0 := by
  cases a with
  | error cause => cases h
  | ok r => exact ⟨r, rfl, by simpa [isHalting, CommandResult.success] using h⟩

lemma Execution.Reports.completed_iff (h : e.Reports index commands answers) :
    (∃ report, e.result = some (.ok report) ∧ report.completed) ↔
      Event.commands e.events = commands ∧ ∀ a ∈ answers, ∃ r, a = .ok r ∧ r.exitStatus = 0 := by
  unfold Execution.Reports at h
  cases hf : answers.findIdx? isHalting with
  | none =>
    rw [hf] at h
    obtain ⟨hc, results, -, he⟩ := h
    rw [List.findIdx?_eq_none_iff] at hf
    exact ⟨fun _ => ⟨hc, fun a ha => exitStatus_of_not_isHalting (hf a ha)⟩,
      fun _ => ⟨_, he, rfl⟩⟩
  | some i =>
    rw [hf] at h
    obtain ⟨-, h⟩ := h
    obtain ⟨hi, hh, -⟩ := List.findIdx?_eq_some_iff_getElem.1 hf
    rw [List.getElem?_eq_getElem hi] at h
    constructor
    · rintro ⟨report, hr, hd⟩
      cases ha : answers[i] with
      | error cause =>
        simp [ha, hr] at h
      | ok r =>
        simp only [ha, hr, Option.some.injEq, Except.ok.injEq] at h
        obtain ⟨results, -, rfl⟩ := h
        cases hd
    · rintro ⟨-, hall⟩
      obtain ⟨r, ha, h0⟩ := hall _ (List.getElem_mem hi)
      simp [ha, isHalting, CommandResult.success, h0] at hh

end Reports

/-- In a run that has a session and sinks that take everything, and of which no command hangs, the
answers alone decide what is executed and what is reported. -/
theorem run_reports_answers (k : Connector σ) (commands : List String) (shutdown : Shutdown)
    (state s : σ) (logs : List LogEntry)
    (hc : (k.connect state).settle shutdown = .value ⟨.ok (), logs, s⟩)
    (ha : AnswersAll commands (k.answers shutdown commands s)) :
    let e := run k commands shutdown {} state
    let answers := k.answers shutdown commands s
    e.Reports 0 commands answers ∧
    ((∃ report, e.result = some (.ok report) ∧ report.completed) ↔
      Event.commands e.events = commands ∧ ∀ a ∈ answers, ∃ r, a = .ok r ∧ r.exitStatus = 0) ∧
    (∀ net target, (Remote.connector net target).NamesExecuted) ∧
    ∀ target, (dryRun target).NamesExecuted := by
  have body : (executeAll k shutdown commands {} s).Reports 0 commands
      (k.answers shutdown commands s) := executeFrom_reports k shutdown _ _ _ _ ha
  obtain ⟨result, hr⟩ := body.ends
  have he := run_of_ended k shutdown hc hr
  have hreports : (run k commands shutdown {} state).Reports 0 commands
      (k.answers shutdown commands s) := by
    refine body.congr ?_ ?_
    · rw [he]
      exact commands_enclosed _ _ _
    · rw [he]
      exact hr.symm
  exact ⟨hreports, hreports.completed_iff,
    fun net target => (connector_echoes net target).namesExecuted,
    fun target => (dryRun_echoes target).namesExecuted⟩

theorem run_reports_answers_stopped :
    let k := scripted .session none
    let responses := [.result "x" "" 0, .resultOf "other" "" "no" 3]
    let e := run k ["a", "b", "c"] .never {} responses
    AnswersAll ["a", "b", "c"] (k.answers .never ["a", "b", "c"] responses) ∧
      Event.commands e.events = ["a", "b"] ∧
      e.result = some (.ok ⟨[⟨"a", "x", "", 0⟩, ⟨"other", "", "no", 3⟩], .stopped 1 3⟩) := by
  intro k responses e
  have ha : AnswersAll ["a", "b", "c"] (k.answers .never ["a", "b", "c"] responses) := .inl rfl
  obtain ⟨hc, results, hm, hr⟩ :=
    (run_reports_answers k ["a", "b", "c"] .never responses responses [] rfl ha).1
  have he : results = [⟨"a", "x", "", 0⟩, ⟨"other", "", "no", 3⟩] :=
    (List.map_inj_right fun _ _ => Except.ok.inj).1 hm.symm
  exact ⟨ha, hc, he ▸ hr⟩

end RemoteBatch.Run
