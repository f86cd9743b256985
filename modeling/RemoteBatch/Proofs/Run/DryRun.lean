import RemoteBatch.Proofs.Run.Interruption
import RemoteBatch.Proofs.Run.Simulation
import RemoteBatch.Proofs.Text.Blank

/-! Dry runs. A dry run is the run over a session that answers every command with the command's own
text, so it completes unless a writer fails, and nothing can stall it. -/

namespace RemoteBatch.Run

def dryResponse (command : String) : Response := .result ("[dry-run] " ++ command) "" 0

variable {target : String} {shutdown : Shutdown}

lemma exec_dryResponse (target : String) (shutdown : Shutdown) (command : String)
    (rest : List String) :
    (((dryRun target).exec command ()).settle shutdown).Similar
      (fun _ responses => responses = rest.map dryResponse)
      (((scripted .session none).exec command ((command :: rest).map dryResponse)).settle
        shutdown) :=
  .value _ [] rfl

lemma executeFrom_dryResponse (target : String) (shutdown : Shutdown) (total index : Nat)
    (commands : List String) (sinks : Sinks) :
    (executeFrom (dryRun target) shutdown total index commands sinks ()).Similar (fun _ _ => True)
      (executeFrom (scripted .session none) shutdown total index commands sinks
        (commands.map dryResponse)) := by
  induction commands generalizing index sinks with
  | nil => exact ⟨rfl, trivial, rfl⟩
  | cons command rest ih =>
    have hs := step_of_similar (exec_dryResponse target shutdown command rest) index total sinks
    rw [executeFrom_cons, executeFrom_cons]
    dsimp only
    rw [hs.next, hs.sinks, hs.state, hs.events]
    cases (step (dryRun target) shutdown index total command sinks ()).next with
    | goOn r =>
      have hl := ih (index + 1) (step (dryRun target) shutdown index total command sinks ()).sinks
      exact ⟨by simp only [hl.events], trivial, by simp only [hl.result]⟩
    | stop report => exact ⟨rfl, trivial, rfl⟩
    | fail cause => exact ⟨rfl, trivial, rfl⟩
    | never => exact ⟨rfl, trivial, rfl⟩

structure Execution.Rehearses {σ : Type} (commands : List String) (e : Execution σ) : Prop where
  result : e.result = some (.ok ⟨commands.map dryResult, .completed⟩)
  visible : Event.visible e.events = transcript commands (commands.map (.ok <| dryResult ·))

lemma step_dryRun (target : String) (shutdown : Shutdown) (index total : Nat) (command : String)
    (sinks : Sinks) :
    let s := step (dryRun target) shutdown index total command sinks ()
    (∃ os fault, (sinks.performAll os).fault = some fault ∧ s.next = .fail (.io fault.message)) ∨
      ∃ os, (sinks.performAll os).fault = none ∧ s.sinks = (sinks.performAll os).sinks ∧
        s.next = .goOn (dryResult command) ∧
          Event.visible s.events = shown command (.ok (dryResult command)) := by
  intro s
  have he : ((dryRun target).exec command ()).settle shutdown =
      .value ⟨.ok (dryResult command), [], ()⟩ := rfl
  have hs : s = _ := step_of_result _ shutdown he
  have hr : (dryResult command).success := rfl
  rw [hs]
  rcases conclude_cases index total command (dryResult command) sinks with
    ⟨fault, hf, hc⟩ | ⟨hf, -, hc⟩ | ⟨-, hno, -⟩
  · exact .inl ⟨_, fault, hf, by rw [hc]⟩
  · have hn : (conclude index total command (dryResult command) sinks ()).next =
        .goOn (dryResult command) := by rw [hc]
    obtain ⟨-, -, hvisible⟩ := conclude_of_goOn hn
    exact .inr ⟨_, hf, by rw [hc], hn, by simp [hvisible, shown]⟩
  · cases hr.symm.trans hno

lemma executeFrom_dryRun (target : String) (shutdown : Shutdown) (total index : Nat)
    (commands : List String) (sinks : Sinks) :
    let e := executeFrom (dryRun target) shutdown total index commands sinks ()
    e.Rehearses commands ∨ ∃ os fault, (sinks.performAll os).fault = some fault ∧
      e.result = some (.error (.io fault.message)) := by
  induction commands generalizing index sinks with
  | nil => exact .inl ⟨rfl, rfl⟩
  | cons command rest ih =>
    intro e
    rcases step_dryRun target shutdown index total command sinks with
      ⟨os, fault, hf, hn⟩ | ⟨os, hf, hsinks, hn, hvisible⟩
    · have he : e = _ := executeFrom_of_fail rfl hn
      exact .inr ⟨os, fault, hf, by rw [he]⟩
    · have he : e = _ := executeFrom_of_goOn rfl hn
      rw [he, hsinks]
      rcases ih (index + 1) (sinks.performAll os).sinks with hrest | ⟨later, fault, hl, hrest⟩
      · refine .inl ⟨?_, ?_⟩
        · exact congrArg (Option.map (Except.map (Report.cons (dryResult command)))) hrest.result
        · rw [Execution.behind, Event.visible_append, hvisible, hrest.visible]
          rfl
      · refine .inr ⟨os ++ later, fault, by simp [Sinks.performAll_append, hf, hl], ?_⟩
        exact congrArg (Option.map (Except.map (Report.cons (dryResult command)))) hrest

def dryOutput (command : String) : Bytes :=
  Utf8.encode ("$ " ++ command ++ "\n") ++
    Utf8.encode (Text.trim ("[dry-run] " ++ command) ++ "\n")

lemma trim_dryRun_ne (command : String) : Text.trim ("[dry-run] " ++ command) ≠ "" := by
  intro h
  have hchars := congrArg String.toList h
  rw [Text.trim, String.toList_ofList, String.toList_append] at hchars
  exact Text.trimChars_cons_ne_nil (c := '[') (by decide) _ hchars

lemma written_visible (stream : Stream) (es : List Event) :
    Event.written stream (Event.visible es) = Event.written stream es := by
  induction es with
  | nil => rfl
  | cons e rest ih =>
    rw [← List.singleton_append, Event.visible_append, Event.written_append, Event.written_append,
      ih]
    cases e <;> rfl

lemma written_dryResult (stream : Stream) (command : String) :
    Event.written stream (shown command (.ok (dryResult command))) =
      match stream with
      | .out => dryOutput command
      | .err => [] := by
  have hout : Text.trim (dryResult command).stdout ≠ "" := trim_dryRun_ne command
  have herr : Text.trim (dryResult command).stderr = "" := rfl
  have hnotice : noticeEvents command (dryResult command) = [] := rfl
  rw [shown, printedEvents, if_neg hout, if_pos herr, hnotice, List.append_nil, List.append_nil,
    ← List.singleton_append, Event.written_append, Event.written_block]
  cases stream with
  | out => simp [Event.written, dryOutput, dryResult]
  | err => rfl

lemma written_dryRun (stream : Stream) (commands : List String) :
    Event.written stream (transcript commands (commands.map (.ok <| dryResult ·))) =
      match stream with
      | .out => commands.flatMap dryOutput
      | .err => [] := by
  induction commands with
  | nil => cases stream <;> rfl
  | cons command rest ih =>
    rw [List.map_cons, transcript_cons, Event.written_append, ih, written_dryResult]
    cases stream <;> rfl

def notConnecting (target : String) : Event :=
  .log (Topic.dryRun.info s!"Dry run: not connecting to {target}")

section Runs

variable (target : String) (commands : List String) (shutdown : Shutdown) (sinks : Sinks)

lemma isSome_executeFrom_dryRun :
    (executeAll (dryRun target) shutdown commands sinks ()).result.isSome := by
  rcases executeFrom_dryRun target shutdown commands.length 0 commands sinks with h | ⟨_, _, -, h⟩
  · simp [executeAll, h.result]
  · simp [executeAll, h]

lemma run_dryRun_eq :
    run (dryRun target) commands shutdown sinks () =
      let body := executeAll (dryRun target) shutdown commands sinks ()
      ⟨.connect :: notConnecting target :: (body.events ++ [.close]), (), body.result⟩ := by
  obtain ⟨result, hr⟩ :=
    Option.isSome_iff_exists.1 (isSome_executeFrom_dryRun target commands shutdown sinks)
  have hc : ((dryRun target).connect ()).settle shutdown =
      .value ⟨.ok (), [Topic.dryRun.info s!"Dry run: not connecting to {target}"], ()⟩ := rfl
  rw [run_of_ended _ _ hc hr]
  dsimp only
  rw [hr]
  rfl

lemma run_dryResponse :
    let e := run (dryRun target) commands shutdown sinks ()
    let e' := run (scripted .session none) commands shutdown sinks (commands.map dryResponse)
    e'.result = e.result ∧ ∃ es, e'.events = .connect :: es ∧
      e.events = .connect :: notConnecting target :: es := by
  intro e e'
  have hbody := executeFrom_dryResponse target shutdown commands.length 0 commands sinks
  obtain ⟨result, hr⟩ :=
    Option.isSome_iff_exists.1 (isSome_executeFrom_dryRun target commands shutdown sinks)
  have he : e = _ := run_dryRun_eq target commands shutdown sinks
  have he' : e' = _ :=
    run_of_ended _ _ (settle_session none _ shutdown) (hbody.result.trans hr)
  rw [he, he']
  refine ⟨hr.symm, _, ?_, rfl⟩
  change .connect :: ((executeAll _ _ _ _ _).events ++ [.close]) = _
  rw [show (executeAll (scripted .session none) shutdown commands sinks _).events = _ from
    hbody.events]
  rfl

lemma run_dryRun :
    let e := run (dryRun target) commands shutdown sinks ()
    (∃ os fault, (sinks.performAll os).fault = some fault ∧
      e.result = some (.error (.io fault.message))) ∨
      e.result = some (.ok ⟨commands.map dryResult, .completed⟩) ∧
        ∀ stream, Event.written stream e.events = match stream with
          | .out => commands.flatMap dryOutput
          | .err => [] := by
  intro e
  have he : e = _ := run_dryRun_eq target commands shutdown sinks
  rw [he]
  rcases executeFrom_dryRun target shutdown commands.length 0 commands sinks with h | h
  · refine .inr ⟨h.result, fun stream => ?_⟩
    rw [← written_dryRun, ← h.visible, written_visible]
    change Event.written stream ([.connect, notConnecting target] ++ (_ ++ [.close])) = _
    rw [Event.written_append, Event.written_append]
    exact List.append_nil _
  · exact .inl h

lemma executeFrom_dryRun_shutdown (total index : Nat) :
    executeFrom (dryRun target) shutdown total index commands sinks () =
      executeFrom (dryRun target) .never total index commands sinks () := by
  induction commands generalizing index sinks with
  | nil => rfl
  | cons command rest ih =>
    have hstep : step (dryRun target) shutdown index total command sinks () =
        step (dryRun target) .never index total command sinks () := rfl
    rw [executeFrom_cons, executeFrom_cons, hstep]
    dsimp only
    rw [ih]

lemma run_dryRun_shutdown :
    run (dryRun target) commands shutdown sinks () =
      run (dryRun target) commands .never sinks () := by
  have hbody := executeFrom_dryRun_shutdown target commands shutdown sinks commands.length 0
  rw [run_dryRun_eq, run_dryRun_eq]
  simp only [executeAll, hbody]

end Runs

end RemoteBatch.Run
