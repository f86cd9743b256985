import RemoteBatch.Proofs.Run.Simulation
import RemoteBatch.Proofs.Run.Unanswered

/-! Runs one after the other. A run takes as many responses as it asks for, whatever ends it, and
leaves nothing behind but the responses that it has not taken: the next one is the run of a new
runner on these. Between two runs no session is open. -/

namespace RemoteBatch.Run

variable {σ τ α : Type}

/-- A connector that opens and closes each of its sessions as laid down for that one, while all of
them take their responses from one list. The session that is closed is the last one asked for. -/
def serial (opening : Nat → Opening) (closing : Nat → Option RunError) :
    Connector (Nat × List Response) where
  connect s := ((scripted (opening s.1) none).connect s.2).mapState (s.1 + 1, ·)
  exec command s := ((scripted .session none).exec command s.2).mapState (s.1, ·)
  close s := ((scripted .session (closing (s.1 - 1))).close s.2).mapState (s.1, ·)

def taken (es : List (Execution σ)) : Nat :=
  (es.flatMap fun e => Event.commands e.events).length

def history (es : List (Execution σ)) : List Event := es.flatMap Execution.events

def opened (opening : Nat → Opening) (n : Nat) : Nat :=
  (List.range n).countP (opening · = .session)

def Event.OneAtATime (opening : Nat → Opening) (es : List Event) : Prop :=
  ∀ before, before <+: es →
    before.count .close ≤ opened opening (before.count .connect) ∧
      opened opening (before.count .connect) ≤ before.count .close + 1

/-! ### Runs of similar connectors -/

lemma Outcome.similar_mapState {R : σ → τ → Prop} (f : σ → τ) (o : Outcome σ α)
    (h : ∀ s, R s (f s)) : o.Similar R (o.mapState f) := by
  cases o with
  | done reply => exact .done ⟨rfl, rfl, h _⟩
  | stalls noticed logs state late =>
    refine .stalls noticed logs (h state) ?_
    cases late with
    | none => exact .none
    | some reply => exact .some ⟨rfl, rfl, h _⟩

lemma runs_succ (k : Connector σ) (commands : List String) (shutdown : Shutdown) (sinks : Sinks)
    (count : Nat) (state : σ) :
    runs k commands shutdown sinks (count + 1) state =
      let first := run k commands shutdown sinks state
      first :: if first.result.isSome then runs k commands shutdown sinks count first.state
        else [] := by
  rw [runs]
  dsimp only
  cases (run k commands shutdown sinks state).result <;> rfl

lemma runs_similar {R : σ → τ → Prop} {k : Connector σ} {k' : Connector τ} (hk : k.Similar R k')
    (hc : ∀ {s s'}, R s s' → (k.connect s).Similar R (k'.connect s')) (commands : List String)
    (shutdown : Shutdown) (sinks : Sinks) (count : Nat) {s : σ} {s' : τ} (h : R s s') :
    List.Forall₂ (Execution.Similar R) (runs k commands shutdown sinks count s)
      (runs k' commands shutdown sinks count s') := by
  induction count generalizing s s' with
  | zero => exact .nil
  | succ count ih =>
    have hr := run_similar hk (hc h) commands shutdown sinks
    rw [runs_succ, runs_succ]
    dsimp only
    rw [hr.result]
    refine .cons hr ?_
    split
    · exact ih hr.state
    · exact .nil

section Serial

variable (opening : Nat → Opening) (closing : Nat → Option RunError) (commands : List String)
  (shutdown : Shutdown) (sinks : Sinks)

lemma run_serial (n : Nat) (rest : List Response) :
    (run (scripted (opening n) (closing n)) commands shutdown sinks rest).Similar
      (fun s s' => s' = (n + 1, s))
      (run (serial opening closing) commands shutdown sinks (n, rest)) := by
  have hk : (scripted (opening n) (closing n)).Similar (fun s s' => s' = (n + 1, s))
      (serial opening closing) := by
    constructor
    · rintro command s _ rfl
      exact Outcome.similar_mapState (n + 1, ·) _ (by simp)
    · rintro s _ rfl
      exact ⟨rfl, rfl, rfl⟩
  exact run_similar hk (Outcome.similar_mapState (n + 1, ·) _ (by simp)) commands shutdown sinks

lemma runs_scripted (o : Opening) (c : Option RunError) (count : Nat) (rest : List Response) :
    List.Forall₂ (Execution.Similar fun s s' => s'.2 = s)
      (runs (scripted o c) commands shutdown sinks count rest)
      (runs (serial (fun _ => o) fun _ => c) commands shutdown sinks count (0, rest)) := by
  have hk : (scripted o c).Similar (fun s s' => s'.2 = s) (serial (fun _ => o) fun _ => c) := by
    constructor
    · rintro command _ s rfl
      exact Outcome.similar_mapState (s.1, ·) _ (by simp)
    · rintro _ s rfl
      exact ⟨rfl, rfl, rfl⟩
  refine runs_similar hk ?_ commands shutdown sinks count rfl
  rintro _ s rfl
  exact Outcome.similar_mapState (s.1 + 1, ·) _ (by simp)

end Serial

/-! ### Responses that are taken -/

section Scripted

variable {o : Opening} {c : Option RunError} {shutdown : Shutdown} {sinks : Sinks}

lemma state_of_exec (command : String) (rest : List Response) :
    (((scripted o c).exec command rest).settle shutdown).state = rest.tail := by
  cases ha : (rest.headD .silent).answer? command with
  | some value => rw [settle_of_answer ha]; rfl
  | none =>
    rw [settle_of_hang ha]
    cases shutdown <;> rfl

lemma behind_scripted (commands : List String) (rest : List Response) :
    (scripted o c).behind shutdown commands rest = rest.drop commands.length := by
  induction commands generalizing rest with
  | nil => rfl
  | cons command commands ih =>
    rw [Connector.behind, List.foldl_cons, state_of_exec]
    refine (ih rest.tail).trans ?_
    rw [← List.drop_one, List.drop_drop, List.length_cons, Nat.add_comm]

lemma run_of_unopened (ho : o ≠ .session) (c : Option RunError) (shutdown : Shutdown)
    (sinks : Sinks) (commands : List String) (rest : List Response) :
    let e := run (scripted o c) commands shutdown sinks rest
    Event.Unopened e.events ∧ e.state = rest := by
  have hunopened (logs : List LogEntry) :
      Event.Unopened (.connect :: logEvents logs) := ⟨logs, rfl⟩
  cases o with
  | session => exact absurd rfl ho
  | error cause =>
    have h : ((scripted (.error cause) c).connect rest).settle shutdown =
        .value ⟨.error cause, [], rest⟩ := rfl
    rw [run_of_refused _ shutdown h]
    exact ⟨hunopened _, rfl⟩
  | hang =>
    cases shutdown with
    | never =>
      have h : ((scripted .hang c).connect rest).settle .never = .never [] rest := rfl
      rw [run_of_never _ .never h]
      exact ⟨hunopened _, rfl⟩
    | onStall notice =>
      have h : ((scripted .hang c).connect rest).settle (.onStall notice) =
          .interrupted notice rest := rfl
      rw [run_of_interrupted _ (.onStall notice) h]
      exact ⟨hunopened _, rfl⟩

lemma commands_of_unopened {es : List Event} (h : Event.Unopened es) : Event.commands es = [] := by
  obtain ⟨logs, rfl⟩ := h
  simp [Event.commands, logEvents, Event.command?]

lemma state_run_scripted (commands : List String) (rest : List Response) :
    (run (scripted o c) commands shutdown sinks rest).state =
      rest.drop (Event.commands
        (run (scripted o c) commands shutdown sinks rest).events).length := by
  by_cases ho : o = .session
  · subst ho
    have hc := settle_session c rest shutdown
    have hbody : (executeAll (scripted .session c) shutdown commands sinks rest).state = rest.drop
        (Event.commands
          (executeAll (scripted .session c) shutdown commands sinks rest).events).length := by
      rw [executeAll, state_executeFrom, behind_scripted]
    rw [(run_of_connected hc).2, ← hbody]
    cases hr : (executeAll (scripted .session c) shutdown commands sinks rest).result with
    | none => rw [run_of_unended _ shutdown hc hr]
    | some result =>
      rw [run_of_ended _ shutdown hc hr]
      rfl
  · obtain ⟨hunopened, hstate⟩ :=
      run_of_unopened ho c shutdown sinks commands rest
    rw [hstate, commands_of_unopened hunopened]
    rfl

lemma executeFrom_congr (total index : Nat) (commands : List String) (sinks : Sinks)
    {rest rest' : List Response}
    (h : ∀ n < (Event.commands (executeFrom (scripted o c) shutdown total index commands sinks
      rest).events).length, rest.getD n .silent = rest'.getD n .silent) :
    (executeFrom (scripted o c) shutdown total index commands sinks rest').events =
        (executeFrom (scripted o c) shutdown total index commands sinks rest).events ∧
      (executeFrom (scripted o c) shutdown total index commands sinks rest').result =
        (executeFrom (scripted o c) shutdown total index commands sinks rest).result := by
  induction commands generalizing index sinks rest rest' with
  | nil => exact ⟨rfl, rfl⟩
  | cons command commands ih =>
    rw [commands_executeFrom_cons, List.length_cons] at h
    have hhead : rest'.headD .silent = rest.headD .silent := by
      simpa [List.headD_eq_head?_getD, List.head?_eq_getElem?, List.getD_eq_getElem?_getD] using
        (h 0 (Nat.succ_pos _)).symm
    have hexec : ((scripted o c).exec command rest).Similar
        (fun s s' => s = rest.tail ∧ s' = rest'.tail) ((scripted o c).exec command rest') := by
      simp only [scripted, hhead]
      split
      · exact .done ⟨rfl, rfl, rfl, rfl⟩
      · exact .stalls (R := fun s s' => s = rest.tail ∧ s' = rest'.tail) true [] ⟨rfl, rfl⟩ .none
    have hs := step_of_similar (hexec.settle shutdown) index total sinks
    obtain ⟨hstate, hstate'⟩ := hs.state
    rw [executeFrom_cons, executeFrom_cons]
    dsimp only at h ⊢
    rw [hs.next]
    cases hn : (step (scripted o c) shutdown index total command sinks rest).next with
    | goOn r =>
      rw [hn, hstate] at h
      rw [hstate, hstate', hs.sinks, hs.events]
      have hlater := @ih (index + 1) (step (scripted o c) shutdown index total command sinks
        rest).sinks rest.tail rest'.tail fun n hlt => by
          simpa [List.getD_eq_getElem?_getD] using h (n + 1) (Nat.succ_lt_succ hlt)
      exact ⟨by rw [hlater.1], by rw [hlater.2]⟩
    | stop report => exact ⟨hs.events, rfl⟩
    | fail cause => exact ⟨hs.events, rfl⟩
    | never => exact ⟨hs.events, rfl⟩

lemma run_congr (commands : List String) {rest rest' : List Response}
    (h : ∀ n < (Event.commands (run (scripted o c) commands shutdown sinks rest).events).length,
      rest.getD n .silent = rest'.getD n .silent) :
    (run (scripted o c) commands shutdown sinks rest').events =
        (run (scripted o c) commands shutdown sinks rest).events ∧
      (run (scripted o c) commands shutdown sinks rest').result =
        (run (scripted o c) commands shutdown sinks rest).result := by
  cases o with
  | session =>
    have hc := settle_session c rest shutdown
    have hc' := settle_session c rest' shutdown
    rw [(run_of_connected hc).2] at h
    obtain ⟨hevents, hresult⟩ := executeFrom_congr commands.length 0 commands sinks h
    change (executeAll (scripted .session c) shutdown commands sinks rest').events = _ at hevents
    change (executeAll (scripted .session c) shutdown commands sinks rest').result = _ at hresult
    cases hr : (executeAll (scripted .session c) shutdown commands sinks rest).result with
    | none =>
      rw [run_of_unended _ shutdown hc hr, run_of_unended _ shutdown hc' (hresult.trans hr)]
      exact ⟨congrArg (_ ++ ·) hevents, rfl⟩
    | some result =>
      rw [run_of_ended _ shutdown hc hr, run_of_ended _ shutdown hc' (hresult.trans hr)]
      exact ⟨congrArg (_ ++ · ++ _) hevents, rfl⟩
  | error cause => exact ⟨rfl, rfl⟩
  | hang => cases shutdown <;> exact ⟨rfl, rfl⟩

end Scripted

/-! ### One run of several -/

lemma taken_cons (e : Execution σ) (es : List (Execution σ)) :
    taken (e :: es) = (Event.commands e.events).length + taken es := by
  simp [taken]

section Runs

variable (opening : Nat → Opening) (closing : Nat → Option RunError) (commands : List String)
  (shutdown : Shutdown) (sinks : Sinks)

lemma runs_serial (count n : Nat) (rest : List Response) {i : Nat}
    {e : Execution (Nat × List Response)}
    (h : (runs (serial opening closing) commands shutdown sinks count (n, rest))[i]? = some e) :
    let es := runs (serial opening closing) commands shutdown sinks count (n, rest)
    let fresh := run (scripted (opening (n + i)) (closing (n + i))) commands shutdown sinks
      (rest.drop (taken (es.take i)))
    e.events = fresh.events ∧ e.result = fresh.result := by
  -- By induction on the number of runs: what the first leaves is where the others start.
  induction count generalizing n rest i with
  | zero => cases h
  | succ count ih =>
    have hfirst := run_serial opening closing commands shutdown sinks n rest
    rw [runs_succ] at h ⊢
    dsimp only at h ⊢
    cases i with
    | zero =>
      obtain rfl := Option.some.inj h
      exact ⟨hfirst.events, hfirst.result⟩
    | succ i =>
      rw [List.getElem?_cons_succ, hfirst.state, state_run_scripted, ← hfirst.events] at h
      rw [List.take_succ_cons, taken_cons, ← List.drop_drop, hfirst.state, state_run_scripted,
        ← hfirst.events]
      split at h
      next hended =>
        rw [if_pos hended]
        have hlater := ih (n + 1) _ h
        rwa [Nat.add_assoc, Nat.add_comm 1 i] at hlater
      next => cases h

lemma length_runs (k : Connector σ) (count : Nat) (state : σ) :
    let es := runs k commands shutdown sinks count state
    (∀ e ∈ es.dropLast, e.result ≠ none) ∧ es.length ≤ count ∧
      ((∀ e ∈ es, e.result ≠ none) → es.length = count) := by
  induction count generalizing state with
  | zero => exact ⟨by simp [runs], Nat.le_refl _, fun _ => rfl⟩
  | succ count ih =>
    obtain ⟨hended, hle, hlength⟩ := ih (run k commands shutdown sinks state).state
    rw [runs_succ]
    dsimp only
    split
    next hr =>
      have hne : (run k commands shutdown sinks state).result ≠ none := by
        intro hnone
        rw [hnone] at hr
        cases hr
      refine ⟨fun e he => ?_, Nat.succ_le_succ hle, fun h => ?_⟩
      · cases hes : runs k commands shutdown sinks count
            (run k commands shutdown sinks state).state with
        | nil =>
          rw [hes] at he
          cases he
        | cons later es =>
          rw [hes] at he hended
          rw [List.dropLast_cons_cons, List.mem_cons] at he
          rcases he with rfl | he
          · exact hne
          · exact hended e he
      · rw [List.length_cons, hlength fun e he => h e (List.mem_cons_of_mem _ he)]
    next hr =>
      refine ⟨by simp, by simp, fun h => ?_⟩
      have hne := h _ List.mem_cons_self
      rw [Option.not_isSome_iff_eq_none] at hr
      exact absurd hr hne

end Runs

/-! ### Open sessions -/

section Sessions

variable {opening : Nat → Opening}

lemma opened_add (opening : Nat → Opening) (m n : Nat) :
    opened opening (m + n) = opened opening m + opened (fun i => opening (m + i)) n := by
  rw [opened, List.range_add, List.countP_append, List.countP_map]
  rfl

lemma opened_one (opening : Nat → Opening) :
    opened opening 1 = if opening 0 = .session then 1 else 0 := by
  simp [opened, List.countP_cons]

lemma Event.OneAtATime.of_connect {later : List Event} (hc : .connect ∉ later)
    (hle : later.count .close ≤ opened opening 1) :
    Event.OneAtATime opening (.connect :: later) := by
  intro before hbefore
  rcases List.prefix_cons_iff.1 hbefore with rfl | ⟨front, rfl, hfront⟩
  · simp [opened]
  · have hconnect : front.count .connect = 0 :=
      List.count_eq_zero.2 fun hm => hc (hfront.subset hm)
    have hclose := hfront.sublist.count_le (Event.close)
    have hone : opened opening 1 ≤ 1 := by
      rw [opened_one]
      split <;> omega
    have hcount : (Event.connect :: front).count .connect = 1 := by
      rw [List.count_cons_self, hconnect]
    have hcount' : (Event.connect :: front).count .close = front.count .close :=
      List.count_cons_of_ne (by decide)
    rw [hcount, hcount']
    omega

lemma Event.OneAtATime.append {es fs : List Event} (hes : Event.OneAtATime opening es)
    (hclosed : es.count .close = opened opening (es.count .connect))
    (hfs : Event.OneAtATime (fun i => opening (es.count .connect + i)) fs) :
    Event.OneAtATime opening (es ++ fs) := by
  rintro before ⟨after, h⟩
  rcases List.append_eq_append_iff.1 h with ⟨rest, he, -⟩ | ⟨rest, rfl, hf⟩
  · exact hes before ⟨rest, he.symm⟩
  · obtain ⟨hle, hge⟩ := hfs rest ⟨after, hf.symm⟩
    rw [List.count_append, List.count_append, opened_add, hclosed]
    omega

lemma count_logEvents {e : Event} (h : e.isCall) (logs : List LogEntry) :
    (logEvents logs).count e = 0 :=
  List.count_eq_zero.2 (Event.notMem_logEvents h logs)

lemma run_scripted_events (o : Opening) (c : Option RunError) (commands : List String)
    (shutdown : Shutdown) (sinks : Sinks) (rest : List Response) :
    ∃ later, (run (scripted o c) commands shutdown sinks rest).events = .connect :: later ∧
      .connect ∉ later ∧ later.count .close = if o = .session ∧
        (run (scripted o c) commands shutdown sinks rest).result ≠ none then 1 else 0 := by
  by_cases ho : o = .session
  · subst ho
    have hc := settle_session c rest shutdown
    cases hr : (executeAll (scripted .session c) shutdown commands sinks rest).result with
    | none =>
      rw [run_of_unended _ shutdown hc hr]
      refine ⟨_, rfl, notMem_executeAll _ shutdown (.inl rfl) _ _ _, ?_⟩
      rw [if_neg (by simp)]
      exact List.count_eq_zero.2 (notMem_executeAll _ shutdown (.inr rfl) _ _ _)
    | some result =>
      obtain ⟨before, logs, he, hconnect, hclose⟩ := run_closedLast _ shutdown hc hr
      refine ⟨before ++ .close :: logEvents logs, he, ?_, ?_⟩
      · rw [List.mem_append, List.mem_cons, not_or, not_or]
        exact ⟨hconnect, by decide, Event.notMem_logEvents rfl logs⟩
      · rw [run_of_ended _ shutdown hc hr, if_pos ⟨rfl, by simp⟩, List.count_append,
          List.count_cons_self, List.count_eq_zero.2 hclose, count_logEvents rfl]
  · obtain ⟨⟨logs, he⟩, -⟩ :=
      run_of_unopened ho c shutdown sinks commands rest
    refine ⟨_, he, Event.notMem_logEvents rfl logs, ?_⟩
    rw [if_neg fun h => ho h.1, count_logEvents rfl]

lemma run_serial_events (opening : Nat → Opening) (closing : Nat → Option RunError)
    (commands : List String) (shutdown : Shutdown) (sinks : Sinks) (n : Nat)
    (rest : List Response) :
    let e := run (serial opening closing) commands shutdown sinks (n, rest)
    Event.OneAtATime (fun i => opening (n + i)) e.events ∧ e.events.count .connect = 1 ∧
      (e.result ≠ none → e.events.count .close = opened (fun i => opening (n + i)) 1) := by
  have hrun := run_serial opening closing commands shutdown sinks n rest
  obtain ⟨later, he, hconnect, hclose⟩ :=
    run_scripted_events (opening n) (closing n) commands shutdown sinks rest
  intro e
  rw [← hrun.events] at he
  rw [← hrun.result] at hclose
  have hclosed : (Event.connect :: later).count .close = later.count .close :=
    List.count_cons_of_ne (by decide)
  rw [he, hclosed, List.count_cons_self, List.count_eq_zero.2 hconnect, opened_one, hclose]
  refine ⟨.of_connect hconnect ?_, rfl, fun hr => ?_⟩
  · rw [hclose, opened_one, Nat.add_zero]
    split_ifs with hopen ho
    · exact Nat.le_refl 1
    · exact absurd hopen.1 ho
    · exact Nat.zero_le _
    · exact Nat.zero_le _
  · exact if_congr (and_iff_left hr) rfl rfl

lemma history_serial (opening : Nat → Opening) (closing : Nat → Option RunError)
    (commands : List String) (shutdown : Shutdown) (sinks : Sinks) (count n : Nat)
    (rest : List Response) :
    let es := runs (serial opening closing) commands shutdown sinks count (n, rest)
    Event.OneAtATime (fun i => opening (n + i)) (history es) ∧
      (history es).count .connect = es.length ∧
      ((∀ e ∈ es, e.result ≠ none) →
        (history es).count .close = opened (fun i => opening (n + i)) es.length) := by
  -- By induction on the number of runs: behind one that ends no session is open.
  induction count generalizing n rest with
  | zero =>
    refine ⟨?_, rfl, fun _ => rfl⟩
    intro before hbefore
    rw [List.prefix_nil.1 hbefore]
    exact ⟨Nat.le_refl _, Nat.zero_le _⟩
  | succ count ih =>
    obtain ⟨hone, hconnect, hclose⟩ :=
      run_serial_events opening closing commands shutdown sinks n rest
    have hstate := (run_serial opening closing commands shutdown sinks n rest).state
    rw [runs_succ]
    dsimp only
    rw [hstate]
    generalize run (serial opening closing) commands shutdown sinks (n, rest) = first at *
    split
    next hr =>
      have hended : first.result ≠ none := Option.isSome_iff_ne_none.1 hr
      obtain ⟨hlater, hconnects, hcloses⟩ := ih (n + 1)
        (run (scripted (opening n) (closing n)) commands shutdown sinks rest).state
      generalize runs (serial opening closing) commands shutdown sinks count _ = es at *
      have hhistory : history (first :: es) = first.events ++ history es := List.flatMap_cons
      have hshift : (fun i => opening (n + 1 + i)) = fun i => opening (n + (1 + i)) :=
        funext fun i => by rw [Nat.add_assoc]
      rw [hshift] at hlater hcloses
      rw [hhistory]
      refine ⟨hone.append ?_ ?_, ?_, fun h => ?_⟩
      · rw [hclose hended, hconnect]
      · rw [hconnect]
        exact hlater
      · rw [List.count_append, hconnect, hconnects, List.length_cons, Nat.add_comm]
      · rw [List.count_append, hclose hended, hcloses fun e he => h e (List.mem_cons_of_mem _ he),
          List.length_cons, Nat.add_comm es.length, opened_add _ 1]
    next hr =>
      have hhistory : history [first] = first.events := List.flatMap_singleton ..
      rw [hhistory]
      exact ⟨hone, hconnect, fun h => hclose (h first List.mem_cons_self)⟩

end Sessions

/-- Each of several runs, whatever ended those before, is the run of a new runner whose responses
are what they have left of the list. At no time is more than one session open; there is a connect
for each run and, if all end, a close for each session. Runs that take equal responses, over
sessions that open and close alike, come to the same. -/
theorem runs_independent (opening : Nat → Opening) (closing : Nat → Option RunError)
    (commands : List String) (shutdown : Shutdown) (sinks : Sinks) (count : Nat)
    (responses : List Response) :
    let es := runs (serial opening closing) commands shutdown sinks count (0, responses)
    let left (i : Nat) := responses.drop (taken (es.take i))
    (∀ o c, opening = (fun _ => o) → closing = (fun _ => c) →
      List.Forall₂ (Execution.Similar fun s s' => s'.2 = s)
        (runs (scripted o c) commands shutdown sinks count responses) es) ∧
    (∀ i e, es[i]? = some e →
      let fresh := run (scripted (opening i) (closing i)) commands shutdown sinks (left i)
      e.events = fresh.events ∧ e.result = fresh.result) ∧
    ((∀ e ∈ es.dropLast, e.result ≠ none) ∧ es.length ≤ count ∧
      ((∀ e ∈ es, e.result ≠ none) → es.length = count)) ∧
    (Event.OneAtATime opening (history es) ∧ (history es).count .connect = es.length ∧
      ((∀ e ∈ es, e.result ≠ none) → (history es).count .close = opened opening es.length)) ∧
    ∀ i j e e', es[i]? = some e → es[j]? = some e' →
      opening i = opening j → closing i = closing j →
      (∀ n < (Event.commands e.events).length,
        (left i).getD n .silent = (left j).getD n .silent) →
      e'.events = e.events ∧ e'.result = e.result := by
  intro es left
  have hfresh : ∀ i e, es[i]? = some e →
      let fresh := run (scripted (opening i) (closing i)) commands shutdown sinks (left i)
      e.events = fresh.events ∧ e.result = fresh.result := by
    intro i e he
    have h := runs_serial opening closing commands shutdown sinks count 0 responses he
    rwa [Nat.zero_add] at h
  have hhistory := history_serial opening closing commands shutdown sinks count 0
    responses
  simp only [Nat.zero_add] at hhistory
  refine ⟨?_, hfresh, length_runs commands shutdown sinks _ count _, hhistory, ?_⟩
  · rintro o c rfl rfl
    exact runs_scripted commands shutdown sinks o c count responses
  intro i j e e' he he' ho hc hleft
  obtain ⟨hevents, hresult⟩ := hfresh i e he
  obtain ⟨hevents', hresult'⟩ := hfresh j e' he'
  rw [hevents] at hleft
  rw [hevents', hresult', hevents, hresult, ← ho, ← hc]
  exact run_congr commands hleft

theorem runs_independent_refused :
    let opening (i : Nat) : Opening := if i = 1 then .error (.connection "lost") else .session
    let closing (_ : Nat) : Option RunError := some (.connection "gone")
    let once : List Response := [.result "x" "" 0, .result "" "" 1]
    let es := runs (serial opening closing) ["a", "b"] .never {} 3 (0, once ++ once)
    es.length = 3 ∧ (history es).count .close = 2 ∧ Event.OneAtATime opening (history es) ∧
      ∃ e e', es[0]? = some e ∧ es[2]? = some e' ∧ e'.events = e.events ∧
        e'.result = some (.ok ⟨[⟨"a", "x", "", 0⟩, ⟨"b", "", "", 1⟩], .stopped 1 1⟩) := by
  intro opening closing once es
  obtain ⟨-, -, ⟨-, -, hcount⟩, ⟨hone, -, hclose⟩, hsame⟩ :=
    runs_independent opening closing ["a", "b"] .never {} 3 (once ++ once)
  have hended : ∀ e ∈ es, e.result ≠ none := by
    have hall : es.all (·.result.isSome) := by decide +kernel
    intro e he
    exact Option.isSome_iff_ne_none.1 (List.all_eq_true.1 hall e he)
  have hlength : es.length = 3 := hcount hended
  refine ⟨hlength, ?_, hone, ?_⟩
  · rw [hclose hended, hlength]
    decide
  · have hget (i : Nat) (hi : i < 3) : ∃ e, es[i]? = some e :=
      ⟨_, List.getElem?_eq_getElem (hlength ▸ hi)⟩
    obtain ⟨e, he⟩ := hget 0 (by decide)
    obtain ⟨e', he'⟩ := hget 2 (by decide)
    have hcommands : es[0]?.map (fun e => (Event.commands e.events).length) = some 2 := by
      decide +kernel
    have hresult : es[2]?.map Execution.result =
        some (some (.ok ⟨[⟨"a", "x", "", 0⟩, ⟨"b", "", "", 1⟩], .stopped 1 1⟩)) := by
      decide +kernel
    rw [he, Option.map_some, Option.some.injEq] at hcommands
    rw [he', Option.map_some, Option.some.injEq] at hresult
    refine ⟨e, e', he, he', (hsame 0 2 e e' he he' rfl rfl ?_).1, hresult⟩
    have hleft : ∀ n < 2, ((once ++ once).drop (taken (es.take 0))).getD n .silent =
        ((once ++ once).drop (taken (es.take 2))).getD n .silent := by decide +kernel
    rwa [hcommands]

end RemoteBatch.Run
