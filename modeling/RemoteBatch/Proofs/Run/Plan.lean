import RemoteBatch.Proofs.Run.Transcript

/-! Connectors whose answers are planned. What a run comes to and what it shows is told from the
plan and the sinks: two connectors that follow one plan, command by command, have runs that differ
in log entries at most. A scripted session follows the plan that its responses lay down. -/

namespace RemoteBatch.Run

variable {σ τ : Type}

/-- What a command is answered at its index in the list; nothing if its answer never comes. -/
abbrev Plan := Nat → String → Option (Except RunError CommandResult)

structure Connector.Follows (k : Connector σ) (shutdown : Shutdown) (plan : Plan)
    (At : Nat → σ → Prop) : Prop where
  answers : ∀ {index state command a}, At index state → plan index command = some a →
    ∃ logs s, (k.exec command state).settle shutdown = .value ⟨a, logs, s⟩ ∧ At (index + 1) s
  stalls : ∀ {index state command}, At index state → plan index command = none →
    ∃ logs s, (k.exec command state).settle shutdown = .never logs s

def Execution.Alike (e : Execution σ) (f : Execution τ) : Prop :=
  e.result = f.result ∧ Event.visible e.events = Event.visible f.events

section Conclude

variable (index total : Nat) (command : String) (r : CommandResult) (sinks : Sinks)

lemma conclude_irrel (state : σ) (s : τ) :
    conclude index total command r sinks s =
      let c := conclude index total command r sinks state
      ⟨c.events, c.sinks, s, c.next⟩ :=
  conclude_mapState (fun _ => s) index total command r sinks state

lemma conclude_next (state : σ) :
    (∃ text, (conclude index total command r sinks state).next = .fail (.io text)) ∨
      (conclude index total command r sinks state).next = .goOn r ∨
      (conclude index total command r sinks state).next =
        .stop ⟨[r], .stopped index r.exitStatus⟩ := by
  rcases conclude_cases index total command r sinks with ⟨_, -, h⟩ | ⟨-, -, h⟩ | ⟨-, -, h⟩ <;>
    rw [h]
  · exact .inl ⟨_, rfl⟩
  · exact .inr (.inl rfl)
  · exact .inr (.inr rfl)

end Conclude

variable {k : Connector σ} {k' : Connector τ} {shutdown shutdown' : Shutdown} {plan plan' : Plan}
  {At : Nat → σ → Prop} {At' : Nat → τ → Prop}

def Step.Alike (s : Step σ) (t : Step τ) : Prop :=
  s.next = t.next ∧ s.sinks = t.sinks ∧ Event.visible s.events = Event.visible t.events

section TwoConnectors

variable (hk : k.Follows shutdown plan At) (hk' : k'.Follows shutdown' plan' At') (total : Nat)
  {index : Nat} {state : σ} {state' : τ} (h : At index state) (h' : At' index state')

include hk hk' h h'

lemma step_alike {command : String} (hp : plan index command = plan' index command)
    (sinks : Sinks) :
    let s := step k shutdown index total command sinks state
    let s' := step k' shutdown' index total command sinks state'
    s.Alike s' ∧ ∀ r, s.next = .goOn r → At (index + 1) s.state ∧ At' (index + 1) s'.state := by
  intro step₁ step₂
  rcases ha : plan' index command with _ | ⟨cause | r⟩
  · obtain ⟨logs, s, he⟩ := hk.stalls h (hp.trans ha)
    obtain ⟨logs', s', he'⟩ := hk'.stalls h' ha
    have hs : step₁ = _ := step_of_never k shutdown he
    have hs' : step₂ = _ := step_of_never k' shutdown' he'
    rw [hs, hs']
    refine ⟨⟨rfl, rfl, by simp⟩, fun r hr => ?_⟩
    cases hr
  · obtain ⟨logs, s, he, -⟩ := hk.answers h (hp.trans ha)
    obtain ⟨logs', s', he', -⟩ := hk'.answers h' ha
    have hs : step₁ = _ := step_of_error k shutdown he
    have hs' : step₂ = _ := step_of_error k' shutdown' he'
    rw [hs, hs']
    refine ⟨⟨rfl, rfl, by simp⟩, fun r hr => ?_⟩
    cases hr
  · obtain ⟨logs, s, he, hat⟩ := hk.answers h (hp.trans ha)
    obtain ⟨logs', s', he', hat'⟩ := hk'.answers h' ha
    have hs : step₁ = _ := step_of_result k shutdown he
    have hs' : step₂ = _ := step_of_result k' shutdown' he'
    rw [hs, hs', conclude_irrel index total command r sinks s s']
    refine ⟨⟨rfl, rfl, by simp⟩, fun _ _ => ⟨?_, hat'⟩⟩
    rwa [conclude_state]

lemma executeFrom_alike {commands : List String}
    (hplan : ∀ i command, commands[i]? = some command →
      plan (index + i) command = plan' (index + i) command) (sinks : Sinks) :
    (executeFrom k shutdown total index commands sinks state).Alike
      (executeFrom k' shutdown' total index commands sinks state') := by
  induction commands generalizing index sinks state state' with
  | nil => exact ⟨rfl, rfl⟩
  | cons command rest ih =>
    have hrest : ∀ i next, rest[i]? = some next →
        plan (index + 1 + i) next = plan' (index + 1 + i) next := by
      intro i next hi
      have hn := hplan (i + 1) next hi
      rwa [Nat.add_assoc, Nat.add_comm 1 i]
    obtain ⟨⟨hnext, hsinks, hvisible⟩, hgo⟩ :=
      step_alike hk hk' total h h' (hplan 0 command rfl) sinks
    rw [executeFrom_cons, executeFrom_cons]
    dsimp only
    rw [hnext, hsinks]
    cases hn : (step k' shutdown' index total command sinks state').next with
    | goOn r =>
      obtain ⟨hs, hs'⟩ := hgo r (hnext.trans hn)
      obtain ⟨hresult, hevents⟩ :=
        ih hs hs' hrest (step k' shutdown' index total command sinks state').sinks
      exact ⟨by simp only [hresult], by simp only [Event.visible_append, hvisible, hevents]⟩
    | stop report => exact ⟨rfl, hvisible⟩
    | fail cause => exact ⟨rfl, hvisible⟩
    | never => exact ⟨rfl, hvisible⟩

end TwoConnectors

lemma run_alike (hk : k.Follows shutdown plan At) (hk' : k'.Follows shutdown' plan' At')
    {commands : List String} {state s : σ} {state' s' : τ} {logs logs' : List LogEntry}
    (hc : (k.connect state).settle shutdown = .value ⟨.ok (), logs, s⟩)
    (hc' : (k'.connect state').settle shutdown' = .value ⟨.ok (), logs', s'⟩)
    (h : At 0 s) (h' : At' 0 s')
    (hplan : ∀ i command, commands[i]? = some command → plan i command = plan' i command)
    (sinks : Sinks) :
    (run k commands shutdown sinks state).Alike (run k' commands shutdown' sinks state') := by
  obtain ⟨hresult, hevents⟩ := executeFrom_alike hk hk' commands.length h h'
    (fun i command hi => by simpa using hplan i command hi) sinks
  change (executeAll k shutdown commands sinks s).result = _ at hresult
  cases hb : (executeAll k' shutdown' commands sinks s').result with
  | none =>
    rw [run_of_unended k shutdown hc (hresult.trans hb), run_of_unended k' shutdown' hc' hb]
    refine ⟨rfl, ?_⟩
    simp only [Event.visible_append, Event.visible_connected]
    exact congrArg _ hevents
  | some result =>
    rw [run_of_ended k shutdown hc (hresult.trans hb), run_of_ended k' shutdown' hc' hb]
    refine ⟨rfl, ?_⟩
    simp only [Event.visible_append, Event.visible_connected, visible_finish]
    exact congrArg (fun es => [Event.connect] ++ es ++ [Event.close]) hevents

lemma commands_executeFrom_cons (k : Connector σ) (shutdown : Shutdown) (total index : Nat)
    (command : String) (rest : List String) (sinks : Sinks) (state : σ) :
    Event.commands (executeFrom k shutdown total index (command :: rest) sinks state).events =
      command ::
        let s := step k shutdown index total command sinks state
        match s.next with
        | .goOn _ => Event.commands
          (executeFrom k shutdown total (index + 1) rest s.sinks s.state).events
        | _ => [] := by
  have hc := commands_step k shutdown index total command sinks state
  rw [executeFrom_cons]
  dsimp only
  cases (step k shutdown index total command sinks state).next <;> simp [hc]

lemma next_of_follows (hk : k.Follows shutdown plan At) (total : Nat) {index : Nat}
    (command : String) (sinks : Sinks) {state : σ} (h : At index state) :
    let s := step k shutdown index total command sinks state
    (∃ r logs, plan index command = some (.ok r) ∧ At (index + 1) s.state ∧
      (k.exec command state).settle shutdown = .value ⟨.ok r, logs, s.state⟩ ∧
        (s.next = .goOn r ∨ s.next = .stop ⟨[r], .stopped index r.exitStatus⟩)) ∨
      (∃ cause, s.next = .fail cause) ∨ s.next = .never := by
  intro step'
  rcases ha : plan index command with _ | ⟨cause | r⟩
  · obtain ⟨logs, s, he⟩ := hk.stalls h ha
    exact .inr (.inr (by simp only [step', step_of_never k shutdown he]))
  · obtain ⟨logs, s, he, -⟩ := hk.answers h ha
    exact .inr (.inl ⟨cause, by simp only [step', step_of_error k shutdown he]⟩)
  · obtain ⟨logs, s, he, hs⟩ := hk.answers h ha
    simp only [step', step_of_result k shutdown he, conclude_state]
    rcases conclude_next index total command r sinks s with ⟨text, hd⟩ | hd
    · exact .inr (.inl ⟨_, hd⟩)
    · exact .inl ⟨r, logs, rfl, hs, he, hd⟩

lemma answers_of_follows (hk : k.Follows shutdown plan At) (total : Nat) {commands : List String}
    {index : Nat} {state : σ} (h : At index state) (sinks : Sinks) {i : Nat} {command : String}
    (hi : (Event.commands
      (executeFrom k shutdown total index commands sinks state).events)[i]? = some command) :
    commands[i]? = some command ∧
      (k.answers shutdown commands state)[i]? = plan (index + i) command := by
  induction commands generalizing index sinks state i with
  | nil => cases hi
  | cons first rest ih =>
    rw [commands_executeFrom_cons] at hi
    cases i with
    | zero =>
      obtain rfl := Option.some.inj hi
      refine ⟨rfl, ?_⟩
      rw [Nat.add_zero]
      cases ha : plan index first with
      | none =>
        obtain ⟨logs, s, he⟩ := hk.stalls h ha
        simp [Connector.answers, he]
      | some a =>
        obtain ⟨logs, s, he, -⟩ := hk.answers h ha
        simp [Connector.answers, he]
    | succ i =>
      rw [List.getElem?_cons_succ] at hi
      dsimp only at hi
      rcases next_of_follows hk total first sinks h with
        ⟨r, logs, -, hs, he, hn | hn⟩ | ⟨cause, hn⟩ | hn
      · rw [hn] at hi
        obtain ⟨hcommand, hanswer⟩ := ih hs _ hi
        refine ⟨hcommand, ?_⟩
        rw [Connector.answers, he, List.getElem?_cons_succ, hanswer, Nat.add_assoc,
          Nat.add_comm 1 i]
      all_goals
        rw [hn] at hi
        cases hi

lemma results_of_follows (hk : k.Follows shutdown plan At) (total : Nat) {commands : List String}
    {index : Nat} {state : σ} (h : At index state) (sinks : Sinks) {report : Report}
    (hr : (executeFrom k shutdown total index commands sinks state).result = some (.ok report))
    {i : Nat} {r : CommandResult} (hi : report.results[i]? = some r) :
    ∃ command, commands[i]? = some command ∧ plan (index + i) command = some (.ok r) := by
  induction commands generalizing index sinks state i report with
  | nil =>
    cases hr
    cases hi
  | cons first rest ih =>
    rw [executeFrom_cons] at hr
    dsimp only at hr
    rcases next_of_follows hk total first sinks h with
      ⟨r', logs, hplan, hs, -, hn | hn⟩ | ⟨cause, hn⟩ | hn
    · rw [hn] at hr
      obtain ⟨later, hl, hm⟩ := Option.map_eq_some_iff.1 hr
      cases later with
      | error cause => cases hm
      | ok later =>
        cases hm
        cases i with
        | zero =>
          obtain rfl := Option.some.inj hi
          exact ⟨first, rfl, hplan⟩
        | succ i =>
          obtain ⟨command, hcommand, ha⟩ := ih hs _ hl hi
          refine ⟨command, hcommand, ?_⟩
          rwa [Nat.add_comm i 1, ← Nat.add_assoc]
    · rw [hn] at hr
      cases hr
      cases i with
      | zero =>
        obtain rfl := Option.some.inj hi
        exact ⟨first, rfl, hplan⟩
      | succ i => cases hi
    all_goals
      rw [hn] at hr
      cases hr

lemma run_of_connected {commands : List String} {sinks : Sinks} {state s : σ}
    {logs : List LogEntry} (hc : (k.connect state).settle shutdown = .value ⟨.ok (), logs, s⟩) :
    (run k commands shutdown sinks state).result =
        (executeAll k shutdown commands sinks s).result ∧
      Event.commands (run k commands shutdown sinks state).events =
        Event.commands (executeAll k shutdown commands sinks s).events := by
  have hs : Event.commands (.connect :: logEvents logs) = [] := by
    simp [Event.commands, logEvents, Event.command?]
  cases hb : (executeAll k shutdown commands sinks s).result with
  | none =>
    rw [run_of_unended k shutdown hc hb]
    exact ⟨rfl, by rw [Event.commands_append, hs, List.nil_append]⟩
  | some result =>
    rw [run_of_ended k shutdown hc hb]
    exact ⟨rfl, commands_enclosed _ _ _⟩

def Response.giving : Option (Except RunError CommandResult) → Response
  | some (.ok r) => .resultOf r.command r.stdout r.stderr r.exitStatus
  | some (.error e) => .error e
  | none => .hang

@[simp] lemma Response.answer?_giving (command : String)
    (a : Option (Except RunError CommandResult)) : (Response.giving a).answer? command = a := by
  rcases a with _ | ⟨cause | r⟩ <;> rfl

lemma exec_scripted (closing : Option RunError) (responses : List Response) (i : Nat)
    (command : String) :
    (scripted .session closing).exec command (responses.drop i) =
      match (responses.getD i .silent).answer? command with
      | some value => .done { value := value, state := responses.drop (i + 1) }
      | none => .stalls true [] (responses.drop (i + 1)) none := by
  have hd : (responses.drop i).headD .silent = responses.getD i .silent := by
    simp [List.headD_eq_head?_getD, List.getD_eq_getElem?_getD]
  cases ha : (responses.getD i .silent).answer? command with
  | none => simp only [scripted, hd, ha, List.tail_drop]
  | some value => simp only [scripted, hd, ha, List.tail_drop]

lemma scripted_follows (closing : Option RunError) (responses : List Response) :
    (scripted .session closing).Follows .never
      (fun i command => (responses.getD i .silent).answer? command)
      (fun i rest => rest = responses.drop i) where
  answers := by
    rintro i _ command a rfl ha
    rw [exec_scripted, ha]
    exact ⟨_, _, rfl, rfl⟩
  stalls := by
    rintro i _ command rfl ha
    rw [exec_scripted, ha]
    exact ⟨_, _, rfl⟩

end RemoteBatch.Run
