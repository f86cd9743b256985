import RemoteBatch.Proofs.Run.Stages

/-! Runs from related states. Where the actions of two connectors answer and log the same from
related states and lead to related states again, so do whole runs. -/

namespace RemoteBatch.Run

variable {σ τ α : Type} (R : σ → τ → Prop)

structure Reply.Similar (r : Reply σ α) (r' : Reply τ α) : Prop where
  value : r'.value = r.value
  logs : r'.logs = r.logs
  state : R r.state r'.state

inductive Outcome.Similar : Outcome σ α → Outcome τ α → Prop
  | done {r : Reply σ α} {r' : Reply τ α} (h : r.Similar R r') : Similar (.done r) (.done r')
  | stalls (noticed : Bool) (logs : List LogEntry) {s : σ} {s' : τ} (h : R s s')
      {late : Option (Reply σ α)} {late' : Option (Reply τ α)}
      (hl : Option.Rel (Reply.Similar R) late late') :
      Similar (.stalls noticed logs s late) (.stalls noticed logs s' late')

inductive Settled.Similar : Settled σ α → Settled τ α → Prop
  | value (value : α) (logs : List LogEntry) {s : σ} {s' : τ} (h : R s s') :
      Similar (.value ⟨value, logs, s⟩) (.value ⟨value, logs, s'⟩)
  | interrupted (logs : List LogEntry) {s : σ} {s' : τ} (h : R s s') :
      Similar (.interrupted logs s) (.interrupted logs s')
  | never (logs : List LogEntry) {s : σ} {s' : τ} (h : R s s') :
      Similar (.never logs s) (.never logs s')

structure Step.Similar (s : Step σ) (s' : Step τ) : Prop where
  events : s'.events = s.events
  sinks : s'.sinks = s.sinks
  state : R s.state s'.state
  next : s'.next = s.next

structure Execution.Similar (e : Execution σ) (e' : Execution τ) : Prop where
  events : e'.events = e.events
  state : R e.state e'.state
  result : e'.result = e.result

structure Connector.Similar (k : Connector σ) (k' : Connector τ) : Prop where
  exec : ∀ command {s s'}, R s s' → (k.exec command s).Similar R (k'.exec command s')
  close : ∀ {s s'}, R s s' → (k.close s).Similar R (k'.close s')

variable {R} {k : Connector σ} {k' : Connector τ} {s : σ} {s' : τ}

lemma Outcome.Similar.settle {o : Outcome σ α} {o' : Outcome τ α} (h : o.Similar R o')
    (shutdown : Shutdown) : (o.settle shutdown).Similar R (o'.settle shutdown) := by
  cases h with
  | @done r r' h =>
    obtain ⟨value, logs, s⟩ := r
    obtain ⟨value', logs', s'⟩ := r'
    obtain ⟨rfl, rfl, hs⟩ := h
    exact .value _ _ hs
  | stalls noticed logs h hl =>
    cases hl with
    | none =>
      rcases shutdown with _ | notice <;> rcases noticed with _ | _
      case onStall.true => exact .interrupted _ h
      all_goals exact .never _ h
    | @some r r' hr =>
      obtain ⟨value, later, t⟩ := r
      obtain ⟨value', later', t'⟩ := r'
      obtain ⟨rfl, rfl, ht⟩ := hr
      rcases shutdown with _ | notice <;> rcases noticed with _ | _
      case onStall.true => exact .interrupted _ h
      all_goals exact .value _ _ ht

lemma conclude_similar (h : R s s') (index total : Nat) (command : String) (r : CommandResult)
    (sinks : Sinks) :
    (conclude index total command r sinks s).Similar R
      (conclude index total command r sinks s') := by
  rcases conclude_cases index total command r sinks with ⟨_, -, hc⟩ | ⟨-, -, hc⟩ | ⟨-, -, hc⟩ <;>
  · rw [hc, hc]
    exact ⟨rfl, rfl, h, rfl⟩

lemma step_of_similar {shutdown : Shutdown} {command : String}
    (hs : ((k.exec command s).settle shutdown).Similar R ((k'.exec command s').settle shutdown))
    (index total : Nat) (sinks : Sinks) :
    (step k shutdown index total command sinks s).Similar R
      (step k' shutdown index total command sinks s') := by
  generalize ho : (k.exec command s).settle shutdown = o at hs
  generalize ho' : (k'.exec command s').settle shutdown = o' at hs
  cases hs with
  | value value logs hn =>
    cases value with
    | error cause =>
      rw [step_of_error k shutdown ho, step_of_error k' shutdown ho']
      exact ⟨rfl, rfl, hn, rfl⟩
    | ok r =>
      rw [step_of_result k shutdown ho, step_of_result k' shutdown ho']
      have hc := conclude_similar hn index total command r sinks
      exact ⟨by simp only [hc.events], hc.sinks, hc.state, hc.next⟩
  | interrupted logs hn =>
    rw [step_of_interrupted k shutdown ho, step_of_interrupted k' shutdown ho']
    exact ⟨rfl, rfl, hn, rfl⟩
  | never logs hn =>
    rw [step_of_never k shutdown ho, step_of_never k' shutdown ho']
    exact ⟨rfl, rfl, hn, rfl⟩

lemma step_similar (hk : k.Similar R k') (h : R s s') (shutdown : Shutdown) (index total : Nat)
    (command : String) (sinks : Sinks) :
    (step k shutdown index total command sinks s).Similar R
      (step k' shutdown index total command sinks s') :=
  step_of_similar ((hk.exec command h).settle shutdown) index total sinks

lemma executeFrom_similar (hk : k.Similar R k') (h : R s s') (shutdown : Shutdown)
    (total index : Nat) (commands : List String) (sinks : Sinks) :
    (executeFrom k shutdown total index commands sinks s).Similar R
      (executeFrom k' shutdown total index commands sinks s') := by
  induction commands generalizing index sinks s s' with
  | nil => exact ⟨rfl, h, rfl⟩
  | cons command rest ih =>
    have hs := step_similar hk h shutdown index total command sinks
    rw [executeFrom_cons, executeFrom_cons]
    dsimp only
    rw [hs.next]
    cases (step k shutdown index total command sinks s).next with
    | goOn r =>
      have hl := ih hs.state (index + 1) (step k shutdown index total command sinks s).sinks
      rw [hs.sinks, hs.events]
      exact ⟨by simp only [hl.events], hl.state, by simp only [hl.result]⟩
    | stop report => exact ⟨hs.events, hs.state, rfl⟩
    | fail cause => exact ⟨hs.events, hs.state, rfl⟩
    | never => exact ⟨hs.events, hs.state, rfl⟩

lemma finish_similar (hk : k.Similar R k') (h : R s s') :
    (finish k' s').1 = (finish k s).1 ∧ R (finish k s).2 (finish k' s').2 := by
  have hc := hk.close h
  exact ⟨by simp only [finish, hc.logs, hc.value], hc.state⟩

lemma run_similar (hk : k.Similar R k') (hc : (k.connect s).Similar R (k'.connect s'))
    (commands : List String) (shutdown : Shutdown) (sinks : Sinks) :
    (run k commands shutdown sinks s).Similar R (run k' commands shutdown sinks s') := by
  have hs := hc.settle shutdown
  generalize ho : (k.connect s).settle shutdown = o at hs
  generalize ho' : (k'.connect s').settle shutdown = o' at hs
  cases hs with
  | value value logs hn =>
    cases value with
    | error cause =>
      rw [run_of_refused k shutdown ho, run_of_refused k' shutdown ho']
      exact ⟨rfl, hn, rfl⟩
    | ok u =>
      have hb := executeFrom_similar hk hn shutdown commands.length 0 commands sinks
      cases hr : (executeAll k shutdown commands sinks _).result with
      | none =>
        rw [run_of_unended k shutdown ho hr, run_of_unended k' shutdown ho' (hb.result.trans hr)]
        exact ⟨congrArg (_ ++ ·) hb.events, hb.state, rfl⟩
      | some result =>
        rw [run_of_ended k shutdown ho hr, run_of_ended k' shutdown ho' (hb.result.trans hr)]
        obtain ⟨hf, hstate⟩ := finish_similar hk hb.state
        exact ⟨congrArg₂ (_ ++ · ++ ·) hb.events hf, hstate, rfl⟩
  | interrupted logs hn =>
    rw [run_of_interrupted k shutdown ho, run_of_interrupted k' shutdown ho']
    exact ⟨rfl, hn, rfl⟩
  | never logs hn =>
    rw [run_of_never k shutdown ho, run_of_never k' shutdown ho']
    exact ⟨rfl, hn, rfl⟩

end RemoteBatch.Run
