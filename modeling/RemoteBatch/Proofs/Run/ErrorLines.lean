import RemoteBatch.Proofs.Run.Stages
import RemoteBatch.Proofs.Text.Utf8

/-! What a run writes to standard error ends each line that it begins, as long as nothing written
there is refused. -/

namespace RemoteBatch.Run

def newline : UInt8 := 10

def EndsLine (bs : Bytes) : Prop := bs.getLast? = some newline

def Output.WholeLines (os : List Output) : Prop := ∀ bs, write .err bs ∈ os → EndsLine bs

def Event.WholeLines (es : List Event) : Prop :=
  ∀ bs, output (.write .err bs) ∈ es → EndsLine bs

lemma endsLine_encode (s : String) : EndsLine (Utf8.encode (s ++ "\n")) := by
  have hend : Utf8.encode "\n" = [newline] := rfl
  rw [EndsLine, Utf8.encode_append, hend, List.getLast?_concat]

namespace Output

lemma wholeLines_printed (r : CommandResult) : WholeLines r.printed := by
  intro bs h
  simp only [CommandResult.printed, line, List.mem_append, List.mem_cons, List.not_mem_nil,
    or_false, reduceCtorEq, false_or, write.injEq, false_and, Option.mem_toList] at h
  rcases h with h | h
  · simp only [trimmedLine?, line] at h
    split at h <;> simp at h
  · simp only [trimmedLine?, line] at h
    split at h
    next htrimmed =>
      split_ifs at htrimmed
      cases htrimmed
      simp only [List.mem_cons, write.injEq, true_and, reduceCtorEq, List.not_mem_nil,
        or_false] at h
      rw [h]
      exact endsLine_encode _
    · cases h

lemma wholeLines_notice (command : String) (exitStatus : Nat) :
    WholeLines (failureNotice command exitStatus) := by
  intro bs h
  simp only [failureNotice, line, List.mem_cons, write.injEq, true_and, reduceCtorEq,
    List.not_mem_nil, or_false] at h
  rw [h]
  exact endsLine_encode _

end Output

lemma Sinks.perform_err {sinks : Sinks} (h : sinks.err = .endless) {o : Output}
    (ho : Output.WholeLines [o]) :
    Output.WholeLines (sinks.perform o).outputs ∧ (sinks.perform o).sinks.err = .endless := by
  cases o with
  | flush stream => exact ⟨fun bs hbs => by simp [perform] at hbs, h⟩
  | write stream bs =>
    cases stream with
    | out => exact ⟨fun bs hbs => by simp [perform] at hbs, h⟩
    | err =>
      have hperform : sinks.perform (.write .err bs) = ⟨[.write .err bs], sinks, none⟩ := by
        obtain ⟨out, err⟩ := sinks
        cases h
        rfl
      rw [hperform]
      exact ⟨ho, h⟩

lemma Sinks.performAll_err {sinks : Sinks} (h : sinks.err = .endless) {os : List Output}
    (ho : Output.WholeLines os) :
    Output.WholeLines (sinks.performAll os).outputs ∧
      (sinks.performAll os).sinks.err = .endless := by
  induction os generalizing sinks with
  | nil => exact ⟨ho, h⟩
  | cons o rest ih =>
    have hfirst := perform_err h (o := o) fun bs hbs =>
      ho bs (List.mem_singleton.1 hbs ▸ List.mem_cons_self)
    have hlater := ih hfirst.2 fun bs hbs => ho bs (List.mem_cons_of_mem _ hbs)
    simp only [performAll]
    split
    · exact hfirst
    · refine ⟨fun bs hbs => ?_, hlater.2⟩
      rcases List.mem_append.1 hbs with hbs | hbs
      · exact hfirst.1 bs hbs
      · exact hlater.1 bs hbs

namespace Event

lemma WholeLines.append {es fs : List Event} (h : WholeLines es) (h' : WholeLines fs) :
    WholeLines (es ++ fs) := by
  intro bs hbs
  rcases List.mem_append.1 hbs with hbs | hbs
  · exact h bs hbs
  · exact h' bs hbs

lemma wholeLines_logEvents (logs : List LogEntry) : WholeLines (logEvents logs) := by
  intro bs h
  simp [logEvents] at h

lemma wholeLines_outputEvents {os : List Output} (h : Output.WholeLines os) :
    WholeLines (outputEvents os) := by
  intro bs hbs
  obtain ⟨o, ho, heq⟩ := List.mem_map.1 hbs
  cases heq
  exact h bs ho

lemma wholeLines_announced (index total : Nat) (command : String) :
    WholeLines (announced index total command) := by
  intro bs h
  simp [announced] at h

lemma wholeLines_connected (logs : List LogEntry) :
    WholeLines (.connect :: logEvents logs) := by
  intro bs h
  simp [logEvents] at h

end Event

variable {σ : Type} (k : Connector σ) (shutdown : Shutdown) {sinks : Sinks}
  (h : sinks.err = .endless)

include h

lemma conclude_err (index total : Nat) (command : String) (r : CommandResult) (state : σ) :
    Event.WholeLines (conclude index total command r sinks state).events ∧
      (conclude index total command r sinks state).sinks.err = .endless := by
  have hos : Output.WholeLines
      (r.printed ++ if r.success then [] else failureNotice command r.exitStatus) := by
    intro bs hbs
    rcases List.mem_append.1 hbs with hbs | hbs
    · exact Output.wholeLines_printed r bs hbs
    · split at hbs
      · cases hbs
      · exact Output.wholeLines_notice command r.exitStatus bs hbs
  obtain ⟨hlines, herr⟩ := Sinks.performAll_err h hos
  rcases conclude_cases index total command r sinks with ⟨_, -, hc⟩ | ⟨-, -, hc⟩ | ⟨-, -, hc⟩
  · rw [hc]
    exact ⟨Event.wholeLines_outputEvents hlines, herr⟩
  · rw [hc]
    exact ⟨Event.wholeLines_outputEvents hlines, herr⟩
  · rw [hc]
    exact ⟨(Event.wholeLines_outputEvents hlines).append (Event.wholeLines_logEvents _), herr⟩

lemma step_err (index total : Nat) (command : String) (state : σ) :
    Event.WholeLines (step k shutdown index total command sinks state).events ∧
      (step k shutdown index total command sinks state).sinks.err = .endless := by
  have hstart (logs : List LogEntry) :
      Event.WholeLines (announced index total command ++ logEvents logs) :=
    (Event.wholeLines_announced index total command).append (Event.wholeLines_logEvents logs)
  rcases hexec : (k.exec command state).settle shutdown with
    ⟨⟨cause | r, logs, s⟩⟩ | ⟨logs, s⟩ | ⟨logs, s⟩
  · rw [step_of_error k shutdown hexec]
    exact ⟨hstart logs, h⟩
  · rw [step_of_result k shutdown hexec]
    obtain ⟨hlines, herr⟩ := conclude_err h index total command r s
    exact ⟨(hstart logs).append hlines, herr⟩
  · rw [step_of_interrupted k shutdown hexec]
    exact ⟨hstart _, h⟩
  · rw [step_of_never k shutdown hexec]
    exact ⟨hstart logs, h⟩

lemma executeFrom_wholeLines (total index : Nat) (commands : List String) (state : σ) :
    Event.WholeLines (executeFrom k shutdown total index commands sinks state).events := by
  induction commands generalizing index sinks state with
  | nil => exact fun bs hbs => nomatch hbs
  | cons command rest ih =>
    obtain ⟨hlines, herr⟩ := step_err k shutdown h index total command state
    rw [executeFrom_cons]
    dsimp only
    split
    · exact hlines.append (ih herr _ _)
    · exact hlines
    · exact hlines
    · exact hlines

lemma run_wholeLines (commands : List String) (state : σ) :
    Event.WholeLines (run k commands shutdown sinks state).events := by
  rcases hconnect : (k.connect state).settle shutdown with
    ⟨⟨cause | _, logs, s⟩⟩ | ⟨logs, s⟩ | ⟨logs, s⟩
  · rw [run_of_refused k shutdown hconnect]
    exact Event.wholeLines_connected logs
  · have hbody : Event.WholeLines (executeAll k shutdown commands sinks s).events :=
      executeFrom_wholeLines k shutdown h _ 0 commands s
    have hopen := (Event.wholeLines_connected logs).append hbody
    cases hresult : (executeAll k shutdown commands sinks s).result with
    | none =>
      rw [run_of_unended k shutdown hconnect hresult]
      exact hopen
    | some result =>
      rw [run_of_ended k shutdown hconnect hresult]
      apply hopen.append
      intro bs hbs
      simp [finish, logEvents] at hbs
  · rw [run_of_interrupted k shutdown hconnect]
    exact Event.wholeLines_connected _
  · rw [run_of_never k shutdown hconnect]
    exact Event.wholeLines_connected logs

end RemoteBatch.Run
