import RemoteBatch.Proofs.Run.Interruption

/-! Runs that come to a command without a result. What the commands ahead of it printed is complete;
for the last one nothing is printed, none follows it, and a run that ends there closes its
session. -/

namespace RemoteBatch.Run

variable {σ α : Type}

def Settled.result? : Settled σ (Except RunError α) → Option (Except RunError α)
  | .value reply => some reply.value
  | .interrupted _ _ => some (.error .interrupted)
  | .never _ _ => none

def Connector.behind (k : Connector σ) (shutdown : Shutdown) (commands : List String)
    (state : σ) : σ :=
  commands.foldl (fun s command => ((k.exec command s).settle shutdown).state) state

structure Execution.EndsAt (commands : List String) (i : Nat) (command : String)
    (ending : Option RunError) (e : Execution σ) : Prop where
  result : e.result = ending.map .error
  executed : Event.commands e.events = commands.take (i + 1)
  shown : ∃ results : List CommandResult, results.length = i ∧
    Event.visible e.events = transcript commands (results.map .ok) ++ [.exec command]

variable {k : Connector σ} {shutdown : Shutdown} {total index : Nat} {command : String}
  {commands rest : List String} {sinks : Sinks} {state : σ}

lemma step_of_goOn {r : CommandResult}
    (h : (step k shutdown index total command sinks state).next = .goOn r) :
    Event.visible (step k shutdown index total command sinks state).events =
      shown command (.ok r) := by
  rcases hs : (k.exec command state).settle shutdown with
    ⟨⟨cause | r', logs, s⟩⟩ | ⟨logs, s⟩ | ⟨logs, s⟩
  · rw [step_of_error k shutdown hs] at h
    cases h
  · rw [step_of_result k shutdown hs] at h ⊢
    obtain ⟨rfl, -, hv⟩ := conclude_of_goOn h
    simp [hv, shown]
  · rw [step_of_interrupted k shutdown hs] at h
    cases h
  · rw [step_of_never k shutdown hs] at h
    cases h

lemma endsAt_of_result? {ending : Option RunError}
    (h : ((k.exec command state).settle shutdown).result? = ending.map .error) :
    (executeFrom k shutdown total index (command :: rest) sinks state).EndsAt (command :: rest) 0
      command ending := by
  have hcommands := commands_step k shutdown index total command sinks state
  rcases hs : (k.exec command state).settle shutdown with
    ⟨⟨cause | r, logs, s⟩⟩ | ⟨logs, s⟩ | ⟨logs, s⟩ <;> rw [hs, Settled.result?] at h
  · have hstep : step k shutdown index total command sinks state = _ := step_of_error k shutdown hs
    obtain ⟨_, rfl, hcause⟩ := Option.map_eq_some_iff.1 h.symm
    obtain rfl := Except.error.inj hcause
    rw [hstep] at hcommands
    rw [executeFrom_of_fail hstep rfl]
    exact ⟨rfl, hcommands, [], rfl, by simp⟩
  · obtain ⟨_, -, hcause⟩ := Option.map_eq_some_iff.1 h.symm
    cases hcause
  · obtain ⟨_, rfl, hcause⟩ := Option.map_eq_some_iff.1 h.symm
    obtain rfl := Except.error.inj hcause
    rw [step_of_interrupted k shutdown hs] at hcommands
    rw [executeFrom_of_interrupted k shutdown hs]
    exact ⟨rfl, hcommands, [], rfl, by simp⟩
  · obtain rfl := Option.map_eq_none_iff.1 h.symm
    rw [step_of_never k shutdown hs] at hcommands
    rw [executeFrom_of_never k shutdown hs]
    exact ⟨rfl, hcommands, [], rfl, by simp⟩

lemma Execution.EndsAt.behind {e : Execution σ} {i : Nat} {ending : Option RunError}
    (h : e.EndsAt rest i command ending) {first : String} {es : List Event} {r : CommandResult}
    (hcommands : Event.commands es = [first])
    (hshown : Event.visible es = Run.shown first (.ok r)) :
    (e.behind es r).EndsAt (first :: rest) (i + 1) command ending where
  result := by
    rw [Execution.behind, h.result]
    cases ending <;> rfl
  executed := by simp [Execution.behind, hcommands, h.executed]
  shown := by
    obtain ⟨results, hlength, hv⟩ := h.shown
    exact ⟨r :: results, by simp [hlength], by simp [Execution.behind, hshown, hv]⟩

lemma executeFrom_endsAt {i : Nat} {ending : Option RunError}
    (hi : (Event.commands
      (executeFrom k shutdown total index commands sinks state).events)[i]? = some command)
    (h : ((k.exec command (k.behind shutdown (commands.take i) state)).settle shutdown).result? =
      ending.map .error) :
    (executeFrom k shutdown total index commands sinks state).EndsAt commands i command ending := by
  induction commands generalizing index sinks state i with
  | nil => cases hi
  | cons first rest ih =>
    rw [commands_executeFrom_cons] at hi
    cases i with
    | zero =>
      obtain rfl := Option.some.inj hi
      exact endsAt_of_result? h
    | succ i =>
      rw [List.getElem?_cons_succ] at hi
      dsimp only at hi
      cases hn : (step k shutdown index total first sinks state).next with
      | goOn r =>
        rw [hn] at hi
        rw [executeFrom_of_goOn rfl hn]
        refine (ih hi ?_).behind (commands_step ..) (step_of_goOn hn)
        rw [state_step]
        exact h
      -- Had the run ended here, it would not have come to a later place of the list.
      | stop report | fail cause | never =>
        rw [hn] at hi
        cases hi

lemma state_executeFrom :
    (executeFrom k shutdown total index commands sinks state).state = k.behind shutdown
      (Event.commands (executeFrom k shutdown total index commands sinks state).events) state := by
  induction commands generalizing index sinks state with
  | nil => rfl
  | cons first rest ih =>
    rw [commands_executeFrom_cons, Connector.behind, List.foldl_cons,
      ← state_step k shutdown index total first sinks state]
    dsimp only
    cases hn : (step k shutdown index total first sinks state).next with
    | goOn r =>
      rw [executeFrom_of_goOn rfl hn, Execution.behind_state]
      exact ih
    | stop report =>
      rw [executeFrom_of_stop rfl hn]
      rfl
    | fail cause =>
      rw [executeFrom_of_fail rfl hn]
      rfl
    | never =>
      rw [executeFrom_cons]
      dsimp only
      rw [hn]
      rfl

lemma prefix_of_executeFrom :
    Event.commands (executeFrom k shutdown total index commands sinks state).events <+:
      commands := by
  obtain ⟨n, hn⟩ := calls_executeFrom k shutdown total index commands sinks state
  have hcommand : Event.command? ∘ Event.exec = some := rfl
  rw [Event.commands_eq_calls, hn, List.filterMap_map, hcommand, List.filterMap_some]
  exact List.take_prefix n commands

lemma getElem?_of_executed {opened : σ} {logs : List LogEntry} {i : Nat}
    (hc : (k.connect state).settle shutdown = .value ⟨.ok (), logs, opened⟩)
    (hi : (Event.commands (run k commands shutdown sinks state).events)[i]? = some command) :
    commands[i]? = some command := by
  have hprefix : Event.commands (executeAll k shutdown commands sinks opened).events <+: commands :=
    prefix_of_executeFrom
  rw [(run_of_connected hc).2] at hi
  obtain ⟨hlt, hcommand⟩ := List.getElem?_eq_some_iff.1 hi
  rw [List.prefix_iff_getElem?.1 hprefix i hlt]
  exact congrArg some hcommand

lemma run_endsAt {opened : σ} {logs : List LogEntry} {i : Nat} {ending : Option RunError}
    (hc : (k.connect state).settle shutdown = .value ⟨.ok (), logs, opened⟩)
    (hi : (Event.commands (run k commands shutdown sinks state).events)[i]? = some command)
    (h : ((k.exec command (k.behind shutdown (commands.take i) opened)).settle shutdown).result? =
      ending.map .error) :
    let e := run k commands shutdown sinks state
    let last := k.behind shutdown (commands.take (i + 1)) opened
    e.result = ending.map .error ∧
    Event.commands e.events = commands.take (i + 1) ∧
    (∃ results : List CommandResult, results.length = i ∧ Event.visible e.events =
      .connect :: transcript commands (results.map .ok) ++
        .exec command :: if ending.isSome then [.close] else []) ∧
    e.state = if ending.isSome then (k.close last).state else last := by
  intro e last
  obtain ⟨hresult, hcommands⟩ : e.result = _ ∧ Event.commands e.events = _ := run_of_connected hc
  rw [hcommands] at hi
  have hbody : (executeAll k shutdown commands sinks opened).EndsAt commands i command ending :=
    executeFrom_endsAt hi h
  have hstate : (executeAll k shutdown commands sinks opened).state = last := by
    rw [executeAll, state_executeFrom]
    exact congrArg (k.behind shutdown · opened) hbody.executed
  refine ⟨hresult.trans hbody.result, hcommands.trans hbody.executed, ?_⟩
  obtain ⟨results, hlength, hshown⟩ := hbody.shown
  cases ending with
  | none =>
    have he : e = _ := run_of_unended k shutdown hc hbody.result
    rw [he]
    refine ⟨⟨results, hlength, ?_⟩, hstate⟩
    rw [Event.visible_append, Event.visible_connected, hshown]
    rfl
  | some cause =>
    have he : e = _ := run_of_ended k shutdown hc hbody.result
    rw [he]
    refine ⟨⟨results, hlength, ?_⟩, ?_⟩
    · rw [Event.visible_append, Event.visible_append, Event.visible_connected, hshown,
        visible_finish]
      simp
    · change (k.close _).state = _
      rw [hstate]
      rfl

end RemoteBatch.Run
