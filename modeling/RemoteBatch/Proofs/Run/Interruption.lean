import RemoteBatch.Proofs.Run.Lifecycle
import RemoteBatch.Proofs.Run.Plan

/-! Runs that are asked to end as soon as something hangs. Such a run is the run that is never
asked, up to the first call that does not come back: there it is interrupted, and what the commands
ahead have printed is complete. -/

namespace RemoteBatch.Run

variable {σ : Type}

lemma Sink.write_of_faultless {s : Sink} {bs : Bytes} (h : (s.write bs).2.2 = none) :
    (s.write bs).1 = bs := by
  unfold Sink.write at h ⊢
  split
  · split
    · rfl
    · next hroom => simp [hroom] at h
  · rfl

lemma Sinks.outputs_perform {s : Sinks} {o : Output} (h : (s.perform o).fault = none) :
    (s.perform o).outputs = [o] := by
  cases o with
  | write stream bs =>
    exact congrArg (fun left => [Output.write stream left]) (Sink.write_of_faultless h)
  | flush stream => rfl

lemma Sinks.outputs_performAll {s : Sinks} {os : List Output}
    (h : (s.performAll os).fault = none) : (s.performAll os).outputs = os := by
  induction os generalizing s with
  | nil => rfl
  | cons o rest ih =>
    cases ho : (s.perform o).fault with
    | some fault => simp [performAll, ho] at h
    | none =>
      simp only [performAll, ho] at h ⊢
      rw [outputs_perform ho, ih h]
      rfl

lemma conclude_of_goOn {index total : Nat} {command : String} {r r' : CommandResult}
    {sinks : Sinks} {state : σ}
    (h : (conclude index total command r sinks state).next = .goOn r') :
    r' = r ∧ r.success ∧ Event.visible (conclude index total command r sinks state).events =
      printedEvents r ++ noticeEvents command r := by
  rcases conclude_cases index total command r sinks with
    ⟨_, -, hc⟩ | ⟨hf, hr, hc⟩ | ⟨-, -, hc⟩
  · rw [hc] at h
    cases h
  · rw [hc] at h ⊢
    cases h
    refine ⟨rfl, hr, ?_⟩
    simp only [Sinks.outputs_performAll hf, Event.visible_outputEvents]
    rw [← outputEvents_printed, ← outputEvents_notice, outputEvents, List.map_append]
    rfl
  · rw [hc] at h
    cases h

lemma Response.answer?_eq_none_iff {command : String} {r : Response} :
    r.answer? command = none ↔ r = .hang := by
  cases r <;> simp [answer?]

variable {opening : Opening} {closing : Option RunError}

lemma settle_session (closing : Option RunError) (responses : List Response)
    (shutdown : Shutdown) :
    ((scripted .session closing).connect responses).settle shutdown =
      .value ⟨.ok (), [], responses⟩ := rfl

lemma settle_of_answer {command : String} {responses : List Response}
    {value : Except RunError CommandResult}
    (h : (responses.headD .silent).answer? command = some value) (shutdown : Shutdown) :
    ((scripted opening closing).exec command responses).settle shutdown =
      .value ⟨value, [], responses.tail⟩ := by
  simp only [scripted, h, Outcome.settle]

lemma settle_of_hang {command : String} {responses : List Response}
    (h : (responses.headD .silent).answer? command = none) (shutdown : Shutdown) :
    ((scripted opening closing).exec command responses).settle shutdown =
      match shutdown with
      | .never => .never [] responses.tail
      | .onStall notice => .interrupted notice responses.tail := by
  simp only [scripted, h]
  cases shutdown <;> rfl

/-- Behind the results the next command hangs: asked to end then, the run shows what it shows if it
is never asked. -/
structure CutBehind (results : List CommandResult) (k : Connector (List Response))
    (commands : List String) (responses : List Response) (e e₀ : Execution (List Response)) :
    Prop where
  success : ∀ r ∈ results, r.success
  answers : k.answers .never commands responses = results.map .ok
  first : ∀ i, responses[i]? = some .hang → results.length ≤ i
  hang : responses[results.length]? = some .hang
  executed : Event.commands e.events = commands.take (results.length + 1)
  interrupted : e.result = some (.error .interrupted)
  endless : e₀.result = none
  shown : ∃ command, commands[results.length]? = some command ∧
    Event.visible e₀.events = transcript commands (results.map .ok) ++ [.exec command]
  same : Event.visible e.events = Event.visible e₀.events

/-- No command hangs that the run comes to: it is the same if it is never asked to end. -/
structure Uncut (responses : List Response) (e e₀ : Execution (List Response)) : Prop where
  same : e = e₀
  ends : e.result.isSome
  answered : ∀ i, i < (Event.commands e.events).length → responses[i]? ≠ some .hang

section Scripts

variable (opening closing) (notice : List LogEntry) {command : String}
  {responses : List Response}

lemma step_of_answer {value : Except RunError CommandResult}
    (ha : (responses.headD .silent).answer? command = some value) (index total : Nat)
    (sinks : Sinks) :
    ∃ s : Step (List Response),
      (∀ shutdown, step (scripted opening closing) shutdown index total command sinks responses =
        s) ∧ Event.commands s.events = [command] ∧ s.next ≠ .never ∧
      ∀ r, s.next = .goOn r → value = .ok r ∧ r.success ∧ s.state = responses.tail ∧
        Event.visible s.events = shown command (.ok r) := by
  have hcommands := commands_step (scripted opening closing) .never index total command sinks
    responses
  have hv (shutdown : Shutdown) :
      ((scripted opening closing).exec command responses).settle shutdown = _ :=
    settle_of_answer ha shutdown
  cases value with
  | error cause =>
    rw [step_of_error _ _ (hv .never)] at hcommands
    refine ⟨_, fun shutdown => step_of_error _ shutdown (hv shutdown), hcommands, by simp, ?_⟩
    rintro r ⟨⟩
  | ok r' =>
    rw [step_of_result _ _ (hv .never)] at hcommands
    refine ⟨_, fun shutdown => step_of_result _ shutdown (hv shutdown), hcommands, ?_, ?_⟩
    · rcases conclude_next index total command r' sinks responses.tail with ⟨_, h⟩ | h | h <;>
        simp [h]
    · intro r hr
      obtain ⟨rfl, hsuccess, hvisible⟩ := conclude_of_goOn hr
      exact ⟨rfl, hsuccess, conclude_state .., by simp [hvisible, shown]⟩

lemma ne_hang_of_answer {value : Except RunError CommandResult}
    (ha : (responses.headD .silent).answer? command = some value) : responses[0]? ≠ some .hang := by
  cases responses with
  | nil => simp
  | cons r later =>
    rintro ⟨⟩
    cases ha

section Behind

variable {commands : List String} {e e₀ : Execution (List Response)} {es : List Event}
  {r : CommandResult} (ha : (responses.headD .silent).answer? command = some (.ok r))
  (hes : Event.commands es = [command])

include ha hes

lemma Uncut.behind (h : Uncut responses.tail e e₀) :
    Uncut responses (e.behind es r) (e₀.behind es r) := by
  refine ⟨by rw [h.same], ?_, fun i hi => ?_⟩
  · simpa [Execution.behind] using h.ends
  · cases i with
    | zero => exact ne_hang_of_answer ha
    | succ i =>
      rw [← List.getElem?_tail]
      apply h.answered
      simpa [Execution.behind, hes] using hi

variable {opening closing}

lemma CutBehind.behind {results : List CommandResult}
    (h : CutBehind results (scripted opening closing) commands responses.tail e e₀)
    (hr : r.success) (hs : Event.visible es = Run.shown command (.ok r)) :
    CutBehind (r :: results) (scripted opening closing) (command :: commands) responses
      (e.behind es r) (e₀.behind es r) where
  success := by simpa [hr] using h.success
  answers := by
    rw [Connector.answers, settle_of_answer ha .never]
    exact congrArg (.ok r :: ·) h.answers
  first i hi := by
    cases i with
    | zero => exact absurd hi (ne_hang_of_answer ha)
    | succ i =>
      rw [← List.getElem?_tail] at hi
      exact Nat.succ_le_succ (h.first i hi)
  hang := by
    rw [List.length_cons, ← List.getElem?_tail]
    exact h.hang
  executed := by simp [Execution.behind, hes, h.executed]
  interrupted := by simp [Execution.behind, h.interrupted, Except.map]
  endless := by simp [Execution.behind, h.endless]
  shown := by
    obtain ⟨last, hc, hv⟩ := h.shown
    exact ⟨last, by simpa using hc, by simp [Execution.behind, hs, hv]⟩
  same := by simp [Execution.behind, h.same]

end Behind

lemma executeFrom_cut (total index : Nat) (commands : List String) (sinks : Sinks)
    (responses : List Response) :
    let k := scripted opening closing
    let e := executeFrom k (.onStall notice) total index commands sinks responses
    let e₀ := executeFrom k .never total index commands sinks responses
    Uncut responses e e₀ ∨ ∃ results, CutBehind results k commands responses e e₀ := by
  intro k
  induction commands generalizing index sinks responses with
  | nil => exact .inl ⟨rfl, rfl, by simp [executeFrom, Event.commands]⟩
  | cons command rest ih =>
    intro e e₀
    cases ha : (responses.headD .silent).answer? command with
    | none =>
      have hn : (k.exec command responses).settle .never = _ := settle_of_hang ha .never
      have hi : (k.exec command responses).settle (.onStall notice) = _ :=
        settle_of_hang ha (.onStall notice)
      have he : e = _ := executeFrom_of_interrupted k _ hi
      have he₀ : e₀ = _ := executeFrom_of_never k _ hn
      have hhang : responses[0]? = some .hang := by
        rw [Response.answer?_eq_none_iff] at ha
        cases responses with
        | nil => cases ha
        | cons r later => exact congrArg some ha
      have hcommands := commands_step k (.onStall notice) index total command sinks responses
      rw [step_of_interrupted k _ hi] at hcommands
      refine .inr ⟨[], by simp, ?_, by simp, hhang, ?_, ?_, ?_, ⟨command, rfl, ?_⟩, ?_⟩
      · simp [Connector.answers, hn]
      · simpa [he] using hcommands
      · rw [he]
      · rw [he₀]
      · simp [he₀]
      · simp [he, he₀]
    | some value =>
      obtain ⟨s, hs, hcommands, hnever, hgo⟩ :=
        step_of_answer opening closing ha index total sinks
      have hanswered : ∀ i, i < 1 → responses[i]? ≠ some .hang := by
        intro i hi
        rw [Nat.lt_one_iff.1 hi]
        exact ne_hang_of_answer ha
      cases hn : s.next with
      | goOn r =>
        obtain ⟨rfl, hr, hstate, hvisible⟩ := hgo r hn
        have he : e = _ := executeFrom_of_goOn (hs _) hn
        have he₀ : e₀ = _ := executeFrom_of_goOn (hs _) hn
        rw [he, he₀, hstate]
        rcases ih (index + 1) s.sinks responses.tail with h | ⟨results, h⟩
        · exact .inl (h.behind ha hcommands)
        · exact .inr ⟨r :: results, h.behind ha hcommands hr hvisible⟩
      | stop report =>
        have he : e = _ := executeFrom_of_stop (hs _) hn
        have he₀ : e₀ = _ := executeFrom_of_stop (hs _) hn
        exact .inl ⟨he.trans he₀.symm, by rw [he]; rfl, by rwa [he, hcommands]⟩
      | fail cause =>
        have he : e = _ := executeFrom_of_fail (hs _) hn
        have he₀ : e₀ = _ := executeFrom_of_fail (hs _) hn
        exact .inl ⟨he.trans he₀.symm, by rw [he]; rfl, by rwa [he, hcommands]⟩
      | never => exact absurd hn hnever

end Scripts

open Event

def HangsAt (responses : List Response) (e : Execution σ) (i : Nat) (command : String) : Prop :=
  (commands e.events)[i]? = some command ∧ responses[i]? = some .hang

lemma not_hangsAt_of_unopened (responses : List Response) {e : Execution σ}
    (h : Unopened e.events) (i : Nat) (command : String) : ¬HangsAt responses e i command := by
  rintro ⟨hi, -⟩
  obtain ⟨logs, hlogs⟩ := h
  have hc : commands (.connect :: logEvents logs) = [] := by
    simp [commands, logEvents, command?]
  rw [hlogs, hc] at hi
  cases hi

lemma flushedAtCalls_enclosed (stream : Stream) (commands : List String)
    (answers : List (Except RunError CommandResult)) {last : List Event}
    (hl : ∀ e ∈ last, e.isCall) :
    FlushedAtCalls stream (.connect :: transcript commands answers ++ last) := by
  have hcalls {es : List Event} (h : ∀ e ∈ es, e.isCall) :
      Flushed stream es ∧ FlushedAtCalls stream es := by
    have hno (bs : Bytes) : .output (.write stream bs) ∉ es := fun he => by cases h _ he
    refine ⟨Flushed.of_notMem hno, ?_⟩
    rintro before call after rfl -
    exact Flushed.of_notMem fun bs hb => hno bs (List.mem_append_left _ hb)
  obtain ⟨hf, hfc⟩ := flushed_transcript stream commands answers
  obtain ⟨hc, hcc⟩ := hcalls (show ∀ e ∈ [.connect], isCall e by simp [isCall])
  rw [← List.singleton_append]
  exact FlushedAtCalls.append (hc.append hf) (FlushedAtCalls.append hc hcc hfc) (hcalls hl).2

section Sessions

variable {commands : List String} {responses : List Response} {notice : List LogEntry}
  {sinks : Sinks}

lemma Uncut.run
    (h : Uncut responses
      (executeAll (scripted .session closing) (.onStall notice) commands sinks responses)
      (executeAll (scripted .session closing) .never commands sinks responses)) :
    Uncut responses (run (scripted .session closing) commands (.onStall notice) sinks responses)
      (run (scripted .session closing) commands .never sinks responses) := by
  obtain ⟨result, hr⟩ := Option.isSome_iff_exists.1 h.ends
  have he := run_of_ended _ _ (settle_session closing responses (.onStall notice)) hr
  have he₀ := run_of_ended _ _ (settle_session closing responses .never) (h.same ▸ hr)
  rw [he, he₀, ← h.same]
  refine ⟨rfl, rfl, fun i hi => ?_⟩
  rw [commands_enclosed] at hi
  exact h.answered i hi

lemma CutBehind.run {results : List CommandResult}
    (h : CutBehind results (scripted .session closing) commands responses
      (executeAll (scripted .session closing) (.onStall notice) commands sinks responses)
      (executeAll (scripted .session closing) .never commands sinks responses)) :
    let e := run (scripted .session closing) commands (.onStall notice) sinks responses
    let e₀ := run (scripted .session closing) commands .never sinks responses
    Event.commands e.events = commands.take (results.length + 1) ∧
      e.result = some (.error .interrupted) ∧ e₀.result = none ∧
      visible e.events = visible e₀.events ++ [.close] ∧
      ∃ command, commands[results.length]? = some command ∧ visible e₀.events =
        .connect :: transcript commands (results.map .ok) ++ [.exec command] := by
  intro e e₀
  have he : e = _ := run_of_ended _ _ (settle_session closing responses _) h.interrupted
  have he₀ : e₀ = _ := run_of_unended _ _ (settle_session closing responses _) h.endless
  obtain ⟨command, hc, hv⟩ := h.shown
  rw [he, he₀]
  refine ⟨?_, rfl, rfl, ?_, command, hc, ?_⟩
  · rw [commands_enclosed]
    exact h.executed
  · simp only [visible_append, visible_connected, visible_finish, h.same]
  · simp only [visible_append, visible_connected, hv]
    rfl

end Sessions

/-- Asked to end as soon as something hangs, a run that hangs while connecting does nothing else;
one that comes to a hanging command has done what the same run does that is never asked, and closes;
and one that comes to neither is the same run. -/
theorem run_ends_at_hang (opening : Opening) (closing : Option RunError) (commands : List String)
    (responses : List Response) (sinks : Sinks) (notice : List LogEntry) :
    let k := scripted opening closing
    let e := run k commands (.onStall notice) sinks responses
    let e₀ := run k commands .never sinks responses
    (opening = .hang →
      e.result = some (.error .interrupted) ∧ visible e.events = [.connect]) ∧
    (∀ i command, HangsAt responses e i command →
      e.result = some (.error .interrupted) ∧ e₀.result = none ∧
      visible e.events = visible e₀.events ++ [.close] ∧
      (∃ results : List CommandResult, results.length = i ∧ (∀ r ∈ results, r.success) ∧
        k.answers .never commands responses = results.map .ok ∧
        commands[i]? = some command ∧ visible e₀.events =
          .connect :: transcript commands (results.map .ok) ++ [.exec command]) ∧
      ∀ stream, FlushedAtCalls stream (visible e.events)) ∧
    (opening ≠ .hang → (∀ i command, ¬HangsAt responses e i command) →
      e = e₀ ∧ e.result.isSome) := by
  intro k e e₀
  cases opening with
  | hang =>
    have hconnect : (k.connect responses).settle (.onStall notice) =
        .interrupted notice responses := rfl
    have he : e = _ := run_of_interrupted k _ hconnect
    have hno := not_hangsAt_of_unopened responses (e := e) ⟨_, by rw [he]⟩
    refine ⟨fun _ => ?_, fun i command hi => absurd hi (hno i command), fun h => absurd rfl h⟩
    rw [he]
    exact ⟨rfl, visible_connected _⟩
  | error cause =>
    have hconnect (shutdown : Shutdown) : (k.connect responses).settle shutdown =
        .value ⟨.error cause, [], responses⟩ := rfl
    have he : e = _ := run_of_refused k _ (hconnect _)
    have he₀ : e₀ = _ := run_of_refused k _ (hconnect _)
    have hno := not_hangsAt_of_unopened responses (e := e) ⟨_, by rw [he]⟩
    refine ⟨fun h => ?_, fun i command hi => absurd hi (hno i command), fun _ _ => ?_⟩
    · cases h
    · rw [he, he₀]
      exact ⟨rfl, rfl⟩
  | session =>
    refine ⟨fun h => ?_, ?_⟩
    · cases h
    rcases executeFrom_cut .session closing notice commands.length 0 commands sinks responses with
      h | ⟨results, h⟩
    · have hrun : Uncut responses e e₀ := Uncut.run h
      refine ⟨fun i command hi => ?_, fun _ _ => ⟨hrun.same, hrun.ends⟩⟩
      obtain ⟨hlt, -⟩ := List.getElem?_eq_some_iff.1 hi.1
      exact absurd hi.2 (hrun.answered i hlt)
    · obtain ⟨hexecuted, hresult, hendless, hsame, command, hc, hshown⟩ := CutBehind.run h
      have hat : HangsAt responses e results.length command := by
        refine ⟨?_, h.hang⟩
        rw [hexecuted, List.getElem?_take, if_pos (Nat.lt_succ_self _), hc]
      refine ⟨fun i last hi => ?_, fun _ hno => absurd hat (hno _ _)⟩
      have hi' : i = results.length := by
        obtain ⟨hlt, -⟩ := List.getElem?_eq_some_iff.1 hi.1
        rw [hexecuted, List.length_take] at hlt
        have hfirst := h.first i hi.2
        omega
      subst hi'
      obtain rfl : command = last := Option.some.inj (hat.1.symm.trans hi.1)
      refine ⟨hresult, hendless, hsame,
        ⟨results, rfl, h.success, h.answers, hc, hshown⟩, fun stream => ?_⟩
      rw [hsame, hshown, List.append_assoc]
      exact flushedAtCalls_enclosed stream commands _ (by simp [isCall])

theorem run_ends_at_hang_second :
    let k := scripted .session none
    let responses := [.result "x" "" 0, .hang]
    let e (room : Nat) := run k ["a", "b", "c"] (.onStall []) ⟨.limited room .tookNothing, .endless⟩
      responses
    HangsAt responses (e 9) 1 "b" ∧ (e 9).result = some (.error .interrupted) ∧
      visible (e 9).events =
        [.connect, .exec "a"] ++ block .out ["$ a", "x"] ++ [.exec "b", .close] ∧
      e 3 = run k ["a", "b", "c"] .never ⟨.limited 3 .tookNothing, .endless⟩ responses ∧
      (run (scripted .hang none) ["a"] (.onStall []) {} []).result =
        some (.error .interrupted) := by
  intro k responses e
  have hat : HangsAt responses (e 9) 1 "b" := ⟨by decide +kernel, rfl⟩
  have hno : ∀ i command, ¬HangsAt responses (e 3) i command := by
    rintro i command ⟨hi, hhang⟩
    have hc : commands (e 3).events = ["a"] := by decide +kernel
    rw [hc] at hi
    cases i with
    | zero => cases hhang
    | succ i => cases hi
  have hcut (room : Nat) := run_ends_at_hang .session none ["a", "b", "c"] responses
    ⟨.limited room .tookNothing, .endless⟩ []
  obtain ⟨hr, -, hv, ⟨results, -, -, hm, -, hv₀⟩, -⟩ := (hcut 9).2.1 1 "b" hat
  have hresults : results = [⟨"a", "x", "", 0⟩] :=
    (List.map_inj_right fun _ _ => Except.ok.inj).1 hm.symm
  rw [hv₀, hresults] at hv
  exact ⟨hat, hr, hv.trans (by decide +kernel), ((hcut 3).2.2 (by simp) hno).1,
    ((run_ends_at_hang .hang none ["a"] [] {} []).1 rfl).1⟩

end RemoteBatch.Run
