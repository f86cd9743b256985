import RemoteBatch.Proofs.Remote.Closing

/-! What a server is asked to run. Of the commands of a run it gets the first ones, in their order;
one that it does not get ends the run. -/

namespace RemoteBatch

namespace Run

variable {σ α : Type}

def Settled.Fails : Settled σ (Except RunError α) → Prop
  | .value reply => ∃ cause, reply.value = .error cause
  | .interrupted _ _ | .never _ _ => True

/-- The other side gets the commands that are run, each at most once, and one that it does not get
fails. `asked` tells from a state what it has got. -/
structure Connector.Asks (k : Connector σ) (asked : σ → List String) : Prop where
  connect : ∀ state shutdown, asked ((k.connect state).settle shutdown).state = asked state
  exec : ∀ command state shutdown,
    asked ((k.exec command state).settle shutdown).state = asked state ++ [command] ∨
      asked ((k.exec command state).settle shutdown).state = asked state ∧
        ((k.exec command state).settle shutdown).Fails
  close : ∀ state, asked (k.close state).state = asked state

def Outcome.Leaves (P : σ → Prop) : Outcome σ α → Prop
  | .done reply => P reply.state
  | .stalls _ _ state late => P state ∧ ∀ reply ∈ late, P reply.state

lemma Outcome.Leaves.settle {P : σ → Prop} {o : Outcome σ α} (h : o.Leaves P)
    (shutdown : Shutdown) : P (o.settle shutdown).state := by
  cases o with
  | done reply => exact h
  | stalls noticed logs state late =>
    rcases shutdown with _ | notice <;> rcases noticed with _ | _ <;> rcases late with _ | reply <;>
      first | exact h.1 | exact h.2 reply rfl

variable {k : Connector σ} {asked : σ → List String}

lemma next_ne_goOn_of_fails {shutdown : Shutdown} {command : String} {state : σ}
    (h : ((k.exec command state).settle shutdown).Fails) (index total : Nat) (sinks : Sinks)
    (r : CommandResult) : (step k shutdown index total command sinks state).next ≠ .goOn r := by
  rcases hs : (k.exec command state).settle shutdown with ⟨⟨value, logs, s⟩⟩ | ⟨logs, s⟩ | ⟨logs, s⟩
  · rw [hs] at h
    obtain ⟨cause, rfl⟩ : ∃ cause, value = .error cause := h
    simp [step_of_error k shutdown hs]
  · simp [step_of_interrupted k shutdown hs]
  · simp [step_of_never k shutdown hs]

lemma outcome_of_stop {shutdown : Shutdown} {index total : Nat} {command : String} {sinks : Sinks}
    {state : σ} {report : Report}
    (h : (step k shutdown index total command sinks state).next = .stop report) :
    ∃ status, report.outcome = .stopped index status := by
  rcases hs : (k.exec command state).settle shutdown with
    ⟨⟨cause | r, logs, s⟩⟩ | ⟨logs, s⟩ | ⟨logs, s⟩
  · rw [step_of_error k shutdown hs] at h
    cases h
  · rw [step_of_result k shutdown hs] at h
    rcases conclude_cases index total command r sinks with ⟨_, -, hc⟩ | ⟨-, -, hc⟩ | ⟨-, -, hc⟩ <;>
      rw [hc] at h <;> cases h
    exact ⟨r.exitStatus, rfl⟩
  · rw [step_of_interrupted k shutdown hs] at h
    cases h
  · rw [step_of_never k shutdown hs] at h
    cases h

structure Execution.AsksFor (asked : σ → List String) (before commands : List String)
    (e : Execution σ) : Prop where
  first : ∃ sent, sent <+: commands ∧ asked e.state = before ++ sent
  completed : ∀ results, e.result = some (.ok ⟨results, .completed⟩) →
    asked e.state = before ++ commands

section AsksFor

variable {before commands rest : List String} {command : String} {e : Execution σ}

lemma Execution.AsksFor.last (hstate : asked e.state = before ∨ asked e.state = before ++ [command])
    (he : ∀ results, e.result ≠ some (.ok ⟨results, .completed⟩)) :
    e.AsksFor asked before (command :: rest) := by
  refine ⟨?_, fun results h => absurd h (he results)⟩
  rcases hstate with h | h
  · exact ⟨[], List.nil_prefix, by simpa using h⟩
  · exact ⟨[command], by simp, h⟩

lemma Execution.AsksFor.none (hstate : asked e.state = before)
    (he : ∀ results, e.result ≠ some (.ok ⟨results, .completed⟩)) :
    e.AsksFor asked before commands :=
  ⟨⟨[], List.nil_prefix, by simpa using hstate⟩, fun results h => absurd h (he results)⟩

lemma Execution.AsksFor.congr (h : e.AsksFor asked before commands) {e' : Execution σ}
    (hstate : asked e'.state = asked e.state) (hresult : e'.result = e.result) :
    e'.AsksFor asked before commands := by
  refine ⟨?_, fun results hr => ?_⟩
  · rw [hstate]
    exact h.first
  · rw [hstate]
    exact h.completed results (hresult ▸ hr)

lemma Execution.AsksFor.behind (h : e.AsksFor asked (before ++ [command]) rest) (es : List Event)
    (r : CommandResult) : (e.behind es r).AsksFor asked before (command :: rest) := by
  obtain ⟨⟨sent, hs, hstate⟩, hcompleted⟩ := h
  refine ⟨⟨command :: sent, List.cons_prefix_cons.2 ⟨rfl, hs⟩, by simpa using hstate⟩, ?_⟩
  intro results hr
  obtain ⟨result, hresult, hcons⟩ := Option.map_eq_some_iff.1 hr
  obtain ⟨report, rfl⟩ : ∃ report, result = .ok report := by
    cases result with
    | error cause => cases hcons
    | ok report => exact ⟨report, rfl⟩
  obtain ⟨earlier, outcome⟩ := report
  cases hcons
  simpa using hcompleted earlier hresult

end AsksFor

lemma executeFrom_asks (hk : k.Asks asked) (shutdown : Shutdown) (total index : Nat)
    (commands : List String) (sinks : Sinks) (state : σ) :
    (executeFrom k shutdown total index commands sinks state).AsksFor asked (asked state)
      commands := by
  induction commands generalizing index sinks state with
  | nil => exact ⟨⟨[], List.prefix_rfl, by simp [executeFrom]⟩, fun _ _ => by simp [executeFrom]⟩
  | cons command rest ih =>
    have hstate := state_step k shutdown index total command sinks state
    have hasked : asked (step k shutdown index total command sinks state).state = asked state ∨
        asked (step k shutdown index total command sinks state).state =
          asked state ++ [command] := by
      rw [hstate]
      rcases hk.exec command state shutdown with h | ⟨h, -⟩
      · exact .inr h
      · exact .inl h
    cases hn : (step k shutdown index total command sinks state).next with
    | goOn r =>
      rw [executeFrom_of_goOn rfl hn]
      rcases hk.exec command state shutdown with h | ⟨-, hf⟩
      · have hlater := ih (index + 1) (step k shutdown index total command sinks state).sinks
          (step k shutdown index total command sinks state).state
        rw [hstate, h, ← hstate] at hlater
        exact hlater.behind _ r
      · exact absurd hn (next_ne_goOn_of_fails hf index total sinks r)
    | stop report =>
      rw [executeFrom_of_stop rfl hn]
      refine .last hasked fun results h => ?_
      obtain ⟨status, ho⟩ := outcome_of_stop hn
      cases h
      cases ho
    | fail cause =>
      rw [executeFrom_of_fail rfl hn]
      exact .last hasked fun results => by simp
    | never =>
      rw [executeFrom_cons]
      simp only [hn]
      exact .last hasked fun results => by simp

lemma run_asks (hk : k.Asks asked) (commands : List String) (shutdown : Shutdown) (sinks : Sinks)
    (state : σ) :
    (run k commands shutdown sinks state).AsksFor asked (asked state) commands := by
  have hconnect := hk.connect state shutdown
  rcases hc : (k.connect state).settle shutdown with
    ⟨⟨cause | _, logs, s⟩⟩ | ⟨logs, s⟩ | ⟨logs, s⟩ <;> rw [hc] at hconnect
  · rw [run_of_refused k shutdown hc]
    exact .none hconnect fun results => by simp
  · have hbody := executeFrom_asks hk shutdown commands.length 0 commands sinks s
    rw [show asked s = asked state from hconnect] at hbody
    cases hb : (executeAll k shutdown commands sinks s).result with
    | none =>
      rw [run_of_unended k shutdown hc hb]
      exact ⟨hbody.first, fun results => by simp⟩
    | some result =>
      rw [run_of_ended k shutdown hc hb]
      exact hbody.congr (hk.close _) hb.symm
  · rw [run_of_interrupted k shutdown hc]
    exact .none hconnect fun results => by simp
  · rw [run_of_never k shutdown hc]
    exact .none hconnect fun results => by simp

end Run

namespace Remote

open Run

def Request.command? : Request → Option String
  | login _ _ => none
  | command text => some text

def Client.asked (c : Client) : List String := c.sent.filterMap Request.command?

lemma asked_of_sent {c c' : Client} (h : c'.sent = c.sent) : c'.asked = c.asked :=
  congrArg (List.filterMap Request.command?) h

lemma asked_of_sent_login {c c' : Client} {user password : String}
    (h : c'.sent = c.sent ++ [.login user password]) : c'.asked = c.asked := by
  simp [Client.asked, h, Request.command?]

lemma asked_of_sent_command {c c' : Client} {command : String}
    (h : c'.sent = c.sent ++ [.command command]) : c'.asked = c.asked ++ [command] := by
  simp [Client.asked, h, Request.command?]

lemma logged_leaves {α : Type} {P : Client → Prop} (logs : List LogEntry) {o : Outcome Client α}
    (h : o.Leaves P) : (logged logs o).Leaves P := by
  cases o <;> exact h

lemma login_leaves (t : Target) (s : Server) (c : Client) :
    (login t s c).Leaves fun c' => c'.asked = c.asked := by
  have hasked : Client.asked { c with sent := c.sent ++ [.login t.username t.password] } =
      c.asked := asked_of_sent_login rfl
  simp only [login]
  cases s.login with
  | accept | reject | disconnect => exact hasked
  | check user password =>
    dsimp only
    split <;> exact hasked
  | hang =>
    refine ⟨hasked, ?_⟩
    rintro _ ⟨⟩
    exact hasked
  | fails reason => rfl

lemma stalls_leaves {c c₀ : Client} (h : c.asked = c₀.asked) (what : String) (t : Target) :
    (Outcome.stalls true [] c (some (timedOut what t c))).Leaves fun c' => c'.asked = c₀.asked := by
  refine ⟨h, ?_⟩
  rintro _ ⟨⟩
  exact h

lemma greet_leaves (t : Target) (s : Server) (c : Client) :
    (greet t s c).Leaves fun c' => c'.asked = c.asked := by
  simp only [greet]
  apply logged_leaves
  split
  · cases s.keyExchange with
    | completes => exact logged_leaves _ (login_leaves t s _)
    | fails reason => rfl
    | hang => exact stalls_leaves rfl _ t
  · rfl

lemma inTime_leaves {t : Target} {c c₀ : Client} {o : Outcome Client (Except RunError Unit)}
    (ho : o.Leaves fun c' => c'.asked = c₀.asked) (hc : c.asked = c₀.asked) :
    (inTime t c o).Leaves fun c' => c'.asked = c₀.asked := by
  rw [inTime]
  split
  · exact hc
  · exact ho

lemma connect_leaves (net : Network) (t : Target) (c : Client) :
    (connect net t c).Leaves fun c' => c'.asked = c.asked := by
  apply logged_leaves
  cases net t.host t.port with
  | unreachable reason => rfl
  | silent => exact inTime_leaves (stalls_leaves rfl _ t) rfl
  | failing reason => exact inTime_leaves rfl rfl
  | server s => exact inTime_leaves (greet_leaves t s _) rfl

lemma await_leaves (command : String) (ses : Session) (script : List ChannelEvent) (c : Client) :
    (await command ses script c).Leaves fun c' => c'.asked = c.asked := by
  simp only [await]
  split
  · rfl
  · rfl
  · refine ⟨rfl, ?_⟩
    intro reply hr
    obtain ⟨limit, -, rfl⟩ := Option.map_eq_some_iff.1 hr
    rfl

lemma send_leaves (command : String) (ses : Session) (c : Client) :
    (send command ses c).Leaves fun c' => c'.asked = c.asked ++ [command] := by
  rw [send_eq]
  dsimp only
  split
  · exact asked_of_sent_command rfl
  · have hawait := await_leaves command { ses with commands := ses.commands + 1 }
      (ses.server.scripts.getD ses.commands [])
      { c with
        session := some { ses with commands := ses.commands + 1 }
        sent := c.sent ++ [.command command] }
    rwa [asked_of_sent_command rfl] at hawait

lemma connector_asks (net : Network) (t : Target) : (connector net t).Asks Client.asked where
  connect c shutdown := (connect_leaves net t c).settle shutdown
  exec command c shutdown := by
    change ((exec command c).settle shutdown).state.asked = _ ∨
      ((exec command c).settle shutdown).state.asked = _ ∧ ((exec command c).settle shutdown).Fails
    rcases exec_cases command c with ⟨ses, h⟩ | ⟨c', ⟨reason, h⟩ | h, hsent⟩
    · rw [h]
      exact .inl ((send_leaves command ses c).settle shutdown)
    · rw [h]
      exact .inr ⟨asked_of_sent hsent, _, rfl⟩
    · rw [h]
      cases shutdown <;> exact .inr ⟨asked_of_sent hsent, trivial⟩
  close c := by
    change (close c).state.asked = c.asked
    rw [close]
    split
    · rfl
    · split <;> rfl

end Remote

end RemoteBatch
