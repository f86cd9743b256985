import RemoteBatch.Proofs.Run.Reports

/-! The transcript of a run: what it does and shows, in order, told from the commands and their
answers alone. Each command stands with everything that it printed, flushed, before the next call
to the connector. -/

namespace RemoteBatch.Run

variable {σ : Type}

namespace Event

def visible (es : List Event) : List Event := es.filter fun e => e.logEntry?.isNone

@[simp] lemma visible_append (es fs : List Event) :
    visible (es ++ fs) = visible es ++ visible fs := by
  simp [visible]

@[simp] lemma visible_logEvents (logs : List LogEntry) : visible (logEvents logs) = [] := by
  simp [visible, logEvents, logEntry?]

@[simp] lemma visible_outputEvents (outputs : List Output) :
    visible (outputEvents outputs) = outputEvents outputs := by
  simp [visible, outputEvents, logEntry?]

@[simp] lemma visible_announced (index total : Nat) (command : String) :
    visible (announced index total command) = [.exec command] := rfl

lemma visible_connected (logs : List LogEntry) :
    visible (.connect :: logEvents logs) = [.connect] := by
  change .connect :: visible (logEvents logs) = _
  rw [visible_logEvents]

def block (stream : Stream) (texts : List String) : List Event :=
  texts.map (fun text => .output (.write stream (Utf8.encode (text ++ "\n")))) ++
    [.output (.flush stream)]

end Event

lemma visible_finish (k : Connector σ) (state : σ) :
    Event.visible (finish k state).1 = [.close] := by
  change .close :: Event.visible (logEvents _) = _
  rw [Event.visible_logEvents]

def printedEvents (r : CommandResult) : List Event :=
  Event.block .out
      (("$ " ++ r.command) :: if Text.trim r.stdout = "" then [] else [Text.trim r.stdout]) ++
    if Text.trim r.stderr = "" then [] else Event.block .err [Text.trim r.stderr]

def noticeEvents (command : String) (r : CommandResult) : List Event :=
  if r.exitStatus = 0 then []
  else Event.block .err
    [s!"Command `{command}` failed with exit status {r.exitStatus}, aborting"]

def shown (command : String) : Except RunError CommandResult → List Event
  | .error _ => [.exec command]
  | .ok r => .exec command :: (printedEvents r ++ noticeEvents command r)

def transcript (commands : List String) (answers : List (Except RunError CommandResult)) :
    List Event :=
  (commands.zip answers).flatMap fun p => shown p.1 p.2

def executed (answers : List (Except RunError CommandResult)) :
    List (Except RunError CommandResult) :=
  answers.take (answers.findIdx isHalting + 1)

@[simp] lemma transcript_cons (command : String) (commands : List String)
    (a : Except RunError CommandResult) (answers : List (Except RunError CommandResult)) :
    transcript (command :: commands) (a :: answers) =
      shown command a ++ transcript commands answers := rfl

@[simp] lemma transcript_nil (commands : List String) : transcript commands [] = [] := by
  simp [transcript]

lemma executed_of_halting {a : Except RunError CommandResult} (h : isHalting a)
    (answers : List (Except RunError CommandResult)) : executed (a :: answers) = [a] := by
  simp [executed, List.findIdx_cons, h]

lemma executed_of_not_halting {a : Except RunError CommandResult} (h : isHalting a = false)
    (answers : List (Except RunError CommandResult)) :
    executed (a :: answers) = a :: executed answers := by
  simp [executed, List.findIdx_cons, h]

lemma outputEvents_printed (r : CommandResult) : outputEvents r.printed = printedEvents r := by
  by_cases ho : Text.trim r.stdout = "" <;> by_cases he : Text.trim r.stderr = "" <;>
    simp only [CommandResult.printed, printedEvents, Output.trimmedLine?, ho, he, if_true,
      if_false] <;> rfl

lemma outputEvents_notice (command : String) (r : CommandResult) :
    outputEvents (if r.success then [] else failureNotice command r.exitStatus) =
      noticeEvents command r := by
  by_cases h : r.exitStatus = 0 <;>
    simp only [CommandResult.success, noticeEvents, h, decide_true, decide_false, if_true,
      if_false] <;> rfl

lemma visible_conclude (index total : Nat) (command : String) (r : CommandResult) (state : σ) :
    Event.visible (conclude index total command r {} state).events =
      printedEvents r ++ noticeEvents command r := by
  have ho : outputEvents (r.printed ++
      if r.success then [] else failureNotice command r.exitStatus) =
        printedEvents r ++ noticeEvents command r := by
    rw [← outputEvents_printed, ← outputEvents_notice, outputEvents, List.map_append]
    rfl
  rw [← ho]
  rcases conclude_cases index total command r {} with ⟨_, hf, -⟩ | ⟨-, -, h⟩ | ⟨-, -, h⟩
  · rw [Sinks.performAll_endless] at hf
    cases hf
  · simp [h]
  · simp [h]

section Commands

variable (k : Connector σ) (shutdown : Shutdown) {total index : Nat} {command : String}
  {rest : List String} {state s : σ} {logs : List LogEntry} {r : CommandResult}

lemma executeFrom_of_error {cause : RunError}
    (h : (k.exec command state).settle shutdown = .value ⟨.error cause, logs, s⟩) :
    executeFrom k shutdown total index (command :: rest) {} state =
      ⟨announced index total command ++ logEvents logs, s, some (.error cause)⟩ := by
  rw [executeFrom_cons, step_of_error k shutdown h]

lemma executeFrom_of_success
    (h : (k.exec command state).settle shutdown = .value ⟨.ok r, logs, s⟩) (hr : r.success) :
    executeFrom k shutdown total index (command :: rest) {} state =
      let later := executeFrom k shutdown total (index + 1) rest {} s
      ⟨announced index total command ++ logEvents logs ++
          (conclude index total command r {} s).events ++ later.events,
        later.state, later.result.map (·.map (·.cons r))⟩ := by
  obtain ⟨hsinks, hnext⟩ := conclude_endless index total command r s
  rw [hr, if_pos rfl] at hnext
  rw [executeFrom_cons, step_of_result k shutdown h]
  simp only [hnext, hsinks, conclude_state]

lemma executeFrom_of_failure
    (h : (k.exec command state).settle shutdown = .value ⟨.ok r, logs, s⟩)
    (hr : r.success = false) :
    executeFrom k shutdown total index (command :: rest) {} state =
      ⟨announced index total command ++ logEvents logs ++
          (conclude index total command r {} s).events,
        s, some (.ok ⟨[r], .stopped index r.exitStatus⟩)⟩ := by
  obtain ⟨-, hnext⟩ := conclude_endless index total command r s
  rw [hr, if_neg Bool.false_ne_true] at hnext
  rw [executeFrom_cons, step_of_result k shutdown h]
  simp only [hnext, conclude_state]

lemma visible_executeFrom (total index : Nat) (commands : List String) (state : σ)
    (h : AnswersAll commands (k.answers shutdown commands state)) :
    Event.visible (executeFrom k shutdown total index commands {} state).events =
      transcript commands (executed (k.answers shutdown commands state)) := by
  induction commands generalizing index state with
  | nil => rfl
  | cons command rest ih =>
    rcases he : (k.exec command state).settle shutdown with
      ⟨⟨cause | r, logs, s⟩⟩ | ⟨logs, s⟩ | ⟨logs, s⟩
    · have hh : isHalting (.error cause) := rfl
      rw [executeFrom_of_error k shutdown he, Connector.answers, he, executed_of_halting hh]
      simp [shown]
    · have hshown := visible_conclude index total command r s
      simp only [Connector.answers, he] at h ⊢
      cases hr : r.success with
      | true =>
        have hh : isHalting (.ok r) = false := by simp [isHalting, hr]
        have hl := ih (index + 1) s (by simpa [AnswersAll, hh] using h)
        rw [executeFrom_of_success k shutdown he hr, executed_of_not_halting hh, transcript_cons]
        simp [shown, hshown, hl]
      | false =>
        have hh : isHalting (.ok r) := by simp [isHalting, hr]
        rw [executeFrom_of_failure k shutdown he hr, executed_of_halting hh, transcript_cons]
        simp [shown, hshown]
    · simp [AnswersAll, Connector.answers, he] at h
    · simp [AnswersAll, Connector.answers, he] at h

end Commands

namespace Event

def Flushed (stream : Stream) (es : List Event) : Prop :=
  ∀ before bs after, es = before ++ .output (.write stream bs) :: after →
    .output (.flush stream) ∈ after

def FlushedAtCalls (stream : Stream) (es : List Event) : Prop :=
  ∀ before call after, es = before ++ call :: after → call.isCall → Flushed stream before

variable {stream : Stream} {es fs : List Event}

lemma Flushed.of_notMem (h : ∀ bs, .output (.write stream bs) ∉ es) : Flushed stream es := by
  rintro before bs after rfl
  exact absurd (by simp) (h bs)

lemma Flushed.concat (es : List Event) : Flushed stream (es ++ [.output (.flush stream)]) := by
  intro before bs after h
  rcases List.eq_nil_or_concat after with rfl | ⟨after, last, rfl⟩
  · have hl := (List.append_inj' h rfl).2
    simp at hl
  · have hs : es ++ [.output (.flush stream)] =
        (before ++ .output (.write stream bs) :: after) ++ [last] := by simpa using h
    simp [List.singleton_inj.1 (List.append_inj' hs rfl).2]

lemma Flushed.append (he : Flushed stream es) (hf : Flushed stream fs) :
    Flushed stream (es ++ fs) := by
  intro before bs after h
  rcases List.append_eq_append_iff.1 h with ⟨mid, -, hm⟩ | ⟨mid, hm, hr⟩
  · exact hf _ _ _ hm
  · cases mid with
    | nil => exact hf [] bs after (by simpa using hr.symm)
    | cons e mid =>
      obtain ⟨rfl, rfl⟩ := List.cons.inj hr
      exact List.mem_append_left _ (he before bs mid hm)

lemma FlushedAtCalls.append (h : Flushed stream es) (he : FlushedAtCalls stream es)
    (hf : FlushedAtCalls stream fs) : FlushedAtCalls stream (es ++ fs) := by
  intro before call after hs hc
  rcases List.append_eq_append_iff.1 hs with ⟨mid, rfl, hm⟩ | ⟨mid, hm, hr⟩
  · exact h.append (hf mid call after hm hc)
  · cases mid with
    | nil =>
      rw [List.append_nil] at hm
      exact hm ▸ h
    | cons e mid =>
      obtain ⟨rfl, rfl⟩ := List.cons.inj hr
      exact he before call mid hm hc

lemma FlushedAtCalls.of_call (call : Event) (hf : ∀ e ∈ es, e.isCall = false) :
    FlushedAtCalls stream (call :: es) := by
  intro before e after hs he
  cases before with
  | nil => exact Flushed.of_notMem (by simp)
  | cons first before =>
    have hm : e ∈ es := by
      rw [(List.cons.inj hs).2]
      simp
    rw [hf e hm] at he
    cases he

lemma isCall_of_mem_block {texts : List String} {e : Event} (h : e ∈ block stream texts) :
    e.isCall = false := by
  simp only [block, List.mem_append, List.mem_map, List.mem_singleton] at h
  rcases h with ⟨text, -, rfl⟩ | rfl <;> rfl

lemma flushed_block (stream other : Stream) (texts : List String) :
    Flushed stream (block other texts) := by
  by_cases h : other = stream
  · exact h ▸ Flushed.concat _
  · apply Flushed.of_notMem
    intro bs hm
    simp [block, h] at hm

lemma written_block (stream other : Stream) (texts : List String) :
    written stream (block other texts) =
      if other = stream then texts.flatMap fun text => Utf8.encode (text ++ "\n") else [] := by
  by_cases h : other = stream <;> simp [written, block, List.flatMap_map, h]

end Event

open Event

variable (stream : Stream)

lemma flushed_shown (command : String) (a : Except RunError CommandResult) :
    Flushed stream (shown command a) := by
  have hexec : Flushed stream [.exec command] := Flushed.of_notMem (by simp)
  have hnil : Flushed stream [] := Flushed.of_notMem (by simp)
  cases a with
  | error cause => exact hexec
  | ok r =>
    have hp : Flushed stream (printedEvents r) := by
      apply (flushed_block _ _ _).append
      split
      · exact hnil
      · exact flushed_block _ _ _
    have hn : Flushed stream (noticeEvents command r) := by
      rw [noticeEvents]
      split
      · exact hnil
      · exact flushed_block _ _ _
    exact hexec.append (hp.append hn)

lemma flushedAtCalls_shown (command : String) (a : Except RunError CommandResult) :
    FlushedAtCalls stream (shown command a) := by
  cases a with
  | error cause => exact FlushedAtCalls.of_call _ (by simp)
  | ok r =>
    apply FlushedAtCalls.of_call
    intro e he
    simp only [printedEvents, noticeEvents, List.mem_append] at he
    rcases he with (he | he) | he
    · exact isCall_of_mem_block he
    · split at he
      · cases he
      · exact isCall_of_mem_block he
    · split at he
      · cases he
      · exact isCall_of_mem_block he

lemma flushed_transcript (commands : List String)
    (answers : List (Except RunError CommandResult)) :
    Flushed stream (transcript commands answers) ∧
      FlushedAtCalls stream (transcript commands answers) := by
  rw [transcript]
  induction commands.zip answers with
  | nil => exact ⟨Flushed.of_notMem (by simp), by simp [FlushedAtCalls]⟩
  | cons p ps ih =>
    have hs := flushed_shown stream p.1 p.2
    exact ⟨hs.append ih.1, FlushedAtCalls.append hs (flushedAtCalls_shown stream p.1 p.2) ih.2⟩

def errorBytes : Except RunError CommandResult → Bytes
  | .error _ => []
  | .ok r => if Text.trim r.stderr = "" then [] else Utf8.encode (Text.trim r.stderr ++ "\n")

lemma written_shown (command : String) {a : Except RunError CommandResult}
    (h : ∀ r, a = .ok r → r.exitStatus = 0) : written .err (shown command a) = errorBytes a := by
  cases a with
  | error cause => rfl
  | ok r =>
    have hexec : written .err [.exec command] = [] := rfl
    have hn : noticeEvents command r = [] := if_pos (h r rfl)
    rw [shown, hn, List.append_nil, ← List.singleton_append, written_append, hexec, printedEvents,
      written_append, written_block, errorBytes]
    by_cases he : Text.trim r.stderr = ""
    · simp [he, written]
    · simp [he, written_block]

lemma written_transcript {commands : List String} {answers : List (Except RunError CommandResult)}
    (hl : answers.length ≤ commands.length)
    (h : ∀ r, .ok r ∈ answers → r.exitStatus = 0) :
    written .err (transcript commands answers) = answers.flatMap errorBytes := by
  induction answers generalizing commands with
  | nil => simp [written]
  | cons a answers ih =>
    cases commands with
    | nil => simp at hl
    | cons command commands =>
      have ha := written_shown command (a := a) fun r hr => h r (hr ▸ List.mem_cons_self)
      have hr : written .err (transcript commands answers) = answers.flatMap errorBytes :=
        ih (by simpa using hl) fun r hr => h r (List.mem_cons_of_mem _ hr)
      rw [transcript_cons, written_append, ha, hr, List.flatMap_cons]

lemma length_answers_le (k : Connector σ) (shutdown : Shutdown) (commands : List String)
    (state : σ) : (k.answers shutdown commands state).length ≤ commands.length := by
  induction commands generalizing state with
  | nil => exact Nat.le_refl 0
  | cons command rest ih =>
    rw [Connector.answers]
    split
    next reply _ => exact Nat.succ_le_succ (ih reply.state)
    all_goals exact Nat.zero_le _

lemma transcript_concat {commands : List String}
    {answers : List (Except RunError CommandResult)} {command : String}
    (hc : commands[answers.length]? = some command) (a : Except RunError CommandResult) :
    transcript commands (answers ++ [a]) = transcript commands answers ++ shown command a := by
  induction answers generalizing commands with
  | nil =>
    cases commands with
    | nil => cases hc
    | cons first commands =>
      cases hc
      simp
  | cons b answers ih =>
    cases commands with
    | nil => cases hc
    | cons first commands =>
      have hr : transcript commands (answers ++ [a]) =
          transcript commands answers ++ shown command a := ih (by simpa using hc)
      rw [List.cons_append, transcript_cons, transcript_cons, hr, List.append_assoc]

/-- What a run does and shows, when no writer fails and nothing hangs: between connecting and
closing every executed command stands with its answer, all of it flushed before the next call. No
notice is written if no command failed, and nothing at all for a command without a result. -/
theorem run_transcript (k : Connector σ) (commands : List String) (shutdown : Shutdown)
    (state s : σ) (logs : List LogEntry)
    (hc : (k.connect state).settle shutdown = .value ⟨.ok (), logs, s⟩)
    (ha : AnswersAll commands (k.answers shutdown commands s)) :
    let es := visible (run k commands shutdown {} state).events
    let answers := executed (k.answers shutdown commands s)
    es = .connect :: transcript commands answers ++ [.close] ∧
    (∀ stream, FlushedAtCalls stream es) ∧
    ((∀ r, .ok r ∈ answers → r.exitStatus = 0) →
      written .err es = answers.flatMap errorBytes) ∧
    ∀ before cause, answers = before ++ [.error cause] →
      ∃ command, commands[before.length]? = some command ∧
        es = .connect :: transcript commands before ++ [.exec command, .close] := by
  intro es answers
  obtain ⟨result, hr⟩ := (executeFrom_reports k shutdown commands.length 0 commands s ha).ends
  have hbody := visible_executeFrom k shutdown commands.length 0 commands s ha
  have hes : es = .connect :: transcript commands answers ++ [.close] := by
    simp only [es, run_of_ended k shutdown hc hr, visible_append, visible_connected,
      visible_finish, executeAll, hbody, List.singleton_append]
    rfl
  have hl : answers.length ≤ commands.length := by
    have hle := length_answers_le k shutdown commands s
    have ht : answers.length ≤ (k.answers shutdown commands s).length := List.length_take_le' _ _
    exact Nat.le_trans ht hle
  refine ⟨hes, fun stream => ?_, fun h0 => ?_, fun before cause hb => ?_⟩
  · obtain ⟨hf, hfc⟩ := flushed_transcript stream commands answers
    have hconnect : FlushedAtCalls stream [.connect] := FlushedAtCalls.of_call _ (by simp)
    have hclose : FlushedAtCalls stream [.close] := FlushedAtCalls.of_call _ (by simp)
    rw [hes, ← List.singleton_append]
    exact FlushedAtCalls.append ((Flushed.of_notMem (by simp)).append hf)
      (FlushedAtCalls.append (Flushed.of_notMem (by simp)) hconnect hfc) hclose
  · rw [hes, written_append, ← List.singleton_append, written_append, written_transcript hl h0]
    simp [written]
  · have hlt : before.length < commands.length := by
      rw [hb, List.length_append] at hl
      exact hl
    have hget := List.getElem?_eq_getElem hlt
    refine ⟨_, hget, ?_⟩
    rw [hes, hb, transcript_concat hget]
    simp [shown]

theorem run_transcript_stopped :
    let k := scripted .session none
    let responses := [.result "x\n" "" 0, .result " " "no" 3]
    let e := run k ["a", "b", "c"] .never {} responses
    AnswersAll ["a", "b", "c"] (k.answers .never ["a", "b", "c"] responses) ∧
      visible e.events =
        [.connect, .exec "a"] ++ block .out ["$ a", "x"] ++
          [.exec "b"] ++ block .out ["$ b"] ++ block .err ["no"] ++
          block .err ["Command `b` failed with exit status 3, aborting"] ++ [.close] := by
  intro k responses e
  have ha : AnswersAll ["a", "b", "c"] (k.answers .never ["a", "b", "c"] responses) := .inl rfl
  have he := (run_transcript k ["a", "b", "c"] .never responses responses [] rfl ha).1
  exact ⟨ha, he.trans (by decide +kernel)⟩

end RemoteBatch.Run
