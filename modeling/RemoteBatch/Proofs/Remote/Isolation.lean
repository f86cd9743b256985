import RemoteBatch.Proofs.Remote.Cut
import RemoteBatch.Proofs.Run.Plan

/-! Commands on one session do not meet. On a server that opens every channel and keeps the
connection, a command is answered from its own script alone, up to the cut; what a script holds
behind its cut is lost on the result, and on the commands that follow. -/

namespace RemoteBatch.Remote

open Run

def spoken : List ChannelEvent → List Message
  | .message m :: script => m :: spoken script
  | _ => []

def unspoken : List ChannelEvent → List ChannelEvent
  | .message _ :: script => unspoken script
  | script => script

lemma spoken_append_unspoken (script : List ChannelEvent) :
    (spoken script).map .message ++ unspoken script = script := by
  induction script with
  | nil => rfl
  | cons e script ih =>
    cases e with
    | message m => simp [spoken, unspoken, ih]
    | disconnect => rfl
    | hang => rfl

lemma spoken_messages (ms : List Message) (later : List ChannelEvent) :
    spoken (ms.map .message ++ later) = ms ++ spoken later := by
  induction ms with
  | nil => rfl
  | cons m ms ih => exact congrArg (m :: ·) ih

lemma dropsLater_of_notMem {rest : List ChannelEvent} (h : .disconnect ∉ rest) :
    dropsLater rest = false := by
  rw [dropsLater, List.contains_eq_mem, decide_eq_false_iff_not]
  exact fun hm => h (List.takeWhile_subset _ hm)

lemma dropsLater_messages (ms : List Message) (later : List ChannelEvent) :
    dropsLater (ms.map .message ++ later) = dropsLater later := by
  induction ms with
  | nil => rfl
  | cons m ms ih =>
    rw [← ih]
    simp [dropsLater]

def finishes (script : List ChannelEvent) : Bool :=
  endsReading (cut (spoken script)) || dropsLater script

lemma finishes_of_notMem {script : List ChannelEvent} (h : .disconnect ∉ script) :
    finishes script = endsReading (cut (spoken script)) := by
  rw [finishes, dropsLater_of_notMem h, Bool.or_false]

lemma collect_unspoken_cases (script : List ChannelEvent) (g : Gathered) :
    (dropsLater (unspoken script) = false ∧
      collect g (unspoken script) = .stalled (script.contains .hang) g) ∨
    (dropsLater (unspoken script) = true ∧ collect g (unspoken script) = .cut g) := by
  induction script with
  | nil => exact .inl ⟨rfl, rfl⟩
  | cons e script ih =>
    cases e with
    | message m => exact ih
    | disconnect => exact .inr ⟨rfl, rfl⟩
    | hang => exact .inl ⟨rfl, rfl⟩

lemma await_cases (command : String) (ses : Session) (script : List ChannelEvent) (c : Client) :
    (finishes script = true ∧
      await command ses script c = .done (concluded command (.of (cut (spoken script)))
        { c with session := some { ses with isUp := !dropsLater script && ses.isUp } })) ∨
    (finishes script = false ∧
      await command ses script c =
        .stalls (script.contains .hang) (signalLogs (.of (spoken script)))
          { c with session := some ses }
          (ses.commandTimeout.map fun limit =>
            commandTimedOut command limit { c with session := some ses })) := by
  have hs := dropsLater_messages (spoken script) (unspoken script)
  have hc := collect_eq (spoken script) (unspoken script)
  rw [spoken_append_unspoken] at hs hc
  rw [finishes, hs]
  cases he : endsReading (cut (spoken script)) with
  | true =>
    rw [he, if_pos rfl] at hc
    rw [await_of_complete command ses c hc, dropsLater_messages]
    exact .inl ⟨rfl, rfl⟩
  | false =>
    rw [he, if_neg Bool.false_ne_true] at hc
    rw [cut_of_not_endsReading he]
    -- Reading has come to the end of the messages, and what stands there decides.
    rcases collect_unspoken_cases script (.of (spoken script)) with ⟨hd, hu⟩ | ⟨hd, hu⟩
    · rw [hd]
      refine .inr ⟨rfl, ?_⟩
      simp only [await, hc.trans hu, Bool.true_and]
    · rw [hd, await_of_cut command ses c (hc.trans hu)]
      exact .inl ⟨rfl, rfl⟩

def heard (limit : Option Duration) (script : List ChannelEvent) : List Message :=
  if limit = some ⟨0⟩ then [] else spoken script

/-- The answer to a command from its script: the result of what is heard up to the cut, or the
failure to come to the cut in time. Without a limit there may be none. -/
def answer? (limit : Option Duration) (script : List ChannelEvent) (command : String) :
    Option (Except RunError CommandResult) :=
  if endsReading (cut (heard limit script)) then some (collected command (cut (heard limit script)))
  else limit.map fun l => .error (.timeout l)

lemma answer?_congr {script script' : List ChannelEvent}
    (h : cut (spoken script') = cut (spoken script)) (limit : Option Duration) (command : String) :
    answer? limit script' command = answer? limit script command := by
  have hh : cut (heard limit script') = cut (heard limit script) := by
    rw [heard, heard]
    split
    · rfl
    · exact h
  rw [answer?, answer?, hh]

def Standing (s : Server) (limit : Option Duration) (n : Nat) (c : Client) : Prop :=
  ∃ address channels, c.session = some ⟨address, s, limit, true, true, channels, n⟩

structure Server.Steady (s : Server) : Prop where
  opensAll : ∀ n, s.start n = .opens
  alwaysStands : ∀ n, s.stands n
  neverDrops : ∀ script ∈ s.scripts, .disconnect ∉ script

lemma Server.Steady.notMem_script {s : Server} (h : s.Steady) (n : Nat) :
    .disconnect ∉ s.scripts.getD n [] := by
  rw [List.getD_eq_getElem?_getD]
  cases hn : s.scripts[n]? with
  | none => simp
  | some script => exact h.neverDrops script (List.mem_of_getElem? hn)

section Exec

variable (command : String) {script : List ChannelEvent} (h : .disconnect ∉ script) (ses : Session)
  (c : Client)

include h

lemma await_of_ends (he : endsReading (cut (spoken script))) :
    await command ses script c = .done (concluded command (.of (cut (spoken script)))
      { c with session := some ses }) := by
  rcases await_cases command ses script c with ⟨-, ha⟩ | ⟨hf, -⟩
  · rw [ha, dropsLater_of_notMem h]
    rfl
  · rw [finishes_of_notMem h, he] at hf
    cases hf

lemma await_of_stalls (he : endsReading (cut (spoken script)) = false) :
    ∃ noticed logs, await command ses script c =
      .stalls noticed logs { c with session := some ses }
        (ses.commandTimeout.map fun limit =>
          commandTimedOut command limit { c with session := some ses }) := by
  rcases await_cases command ses script c with ⟨hf, -⟩ | ⟨-, ha⟩
  · rw [finishes_of_notMem h, he] at hf
    cases hf
  · exact ⟨_, _, ha⟩

end Exec

section Follows

variable {s : Server} {limit : Option Duration} {address : String} {channels n : Nat} {c : Client}

lemma exec_of_standing (hs : s.Steady)
    (hc : c.session = some ⟨address, s, limit, true, true, channels, n⟩) (command : String) :
    exec command c = send command ⟨address, s, limit, true, true, channels + 1, n⟩ c := by
  simp [exec, hc, hs.opensAll, hs.alwaysStands]

lemma send_eq (ses : Session) (command : String) (c : Client) :
    send command ses c =
      let sent := { ses with commands := ses.commands + 1 }
      let c' := { c with session := some sent, sent := c.sent ++ [.command command] }
      if ses.commandTimeout = some ⟨0⟩ then .done (commandTimedOut command ⟨0⟩ c')
      else await command sent (ses.server.scripts.getD ses.commands []) c' := by
  by_cases h : ses.commandTimeout = some ⟨0⟩ <;> simp [send, h]

lemma connector_follows (net : Network) (t : Target) (hs : s.Steady) :
    (connector net t).Follows .never (fun i command => answer? limit (s.scripts.getD i []) command)
      (Standing s limit) where
  answers := by
    rintro n c command a ⟨address, channels, hc⟩ ha
    change ∃ logs c', (exec command c).settle .never = _ ∧ _
    rw [exec_of_standing hs hc, send_eq]
    dsimp only
    by_cases h0 : limit = some ⟨0⟩
    · subst h0
      obtain rfl := Option.some.inj ha
      exact ⟨_, _, rfl, address, channels + 1, rfl⟩
    · rw [if_neg h0]
      simp only [answer?, heard, if_neg h0] at ha
      cases he : endsReading (cut (spoken (s.scripts.getD n []))) with
      | true =>
        rw [if_pos he] at ha
        obtain rfl := Option.some.inj ha
        rw [await_of_ends command (hs.notMem_script n) _ _ he]
        exact ⟨_, _, rfl, address, channels + 1, rfl⟩
      | false =>
        rw [he, if_neg Bool.false_ne_true] at ha
        obtain ⟨l, rfl, rfl⟩ := Option.map_eq_some_iff.1 ha
        obtain ⟨noticed, logs, hw⟩ := await_of_stalls command (hs.notMem_script n)
          ⟨address, s, some l, true, true, channels + 1, n + 1⟩ _ he
        rw [hw]
        exact ⟨_, _, rfl, address, channels + 1, rfl⟩
  stalls := by
    rintro n c command ⟨address, channels, hc⟩ ha
    change ∃ logs c', (exec command c).settle .never = _
    rw [exec_of_standing hs hc, send_eq]
    dsimp only
    simp only [answer?] at ha
    split at ha
    · cases ha
    · next he =>
      obtain rfl := Option.map_eq_none_iff.1 ha
      rw [heard, if_neg (by simp), Bool.not_eq_true] at he
      obtain ⟨noticed, logs, hw⟩ := await_of_stalls command (hs.notMem_script n)
        ⟨address, s, none, true, true, channels + 1, n + 1⟩ _ he
      rw [if_neg (by simp), hw]
      exact ⟨_, _, rfl⟩

end Follows

lemma settle_of_logged {σ α : Type} {shutdown : Shutdown} {before logs : List LogEntry}
    {o : Outcome σ α} {value : α} {state : σ}
    (h : (logged before o).settle shutdown = .value ⟨value, logs, state⟩) :
    ∃ logs', o.settle shutdown = .value ⟨value, logs', state⟩ := by
  cases o with
  | done reply =>
    cases h
    exact ⟨_, rfl⟩
  | stalls noticed later waiting late =>
    rcases shutdown with _ | notice <;> rcases noticed with _ | _ <;> rcases late with _ | reply <;>
      cases h <;> exact ⟨_, rfl⟩

def Target.opened (t : Target) (s : Server) : Session :=
  ⟨t.address, s, t.commandTimeout, true, s.stands 0, 0, 0⟩

def Target.sessionBehind (t : Target) (s : Server) (before : Option Session) :
    Except RunError Unit → Option Session
  | .ok _ => some (t.opened s)
  | .error _ => before

section Connect

variable {net : Network} {t : Target} {s : Server} {c c' : Client} {shutdown : Shutdown}
  {value : Except RunError Unit} {logs : List LogEntry}

lemma session_of_login (h : (login t s c).settle shutdown = .value ⟨value, logs, c'⟩) :
    c'.session = t.sessionBehind s c.session value := by
  simp only [login] at h
  cases hl : s.login with
  | accept | reject | disconnect | fails reason =>
    rw [hl] at h
    cases h
    rfl
  | check user password =>
    rw [hl] at h
    dsimp only at h
    split at h <;> cases h <;> rfl
  | hang =>
    rw [hl] at h
    cases shutdown <;> cases h
    rfl

lemma session_of_greet (h : (greet t s c).settle shutdown = .value ⟨value, logs, c'⟩) :
    c'.session = t.sessionBehind s c.session value := by
  obtain ⟨_, h⟩ := settle_of_logged h
  split at h
  · split at h
    · cases h
      rfl
    · cases shutdown <;> cases h
      rfl
    · obtain ⟨_, h⟩ := settle_of_logged h
      exact (session_of_login h).trans rfl
  · cases h
    rfl

lemma session_of_inTime {o : Outcome Client (Except RunError Unit)}
    (h : (inTime t c o).settle shutdown = .value ⟨value, logs, c'⟩) :
    (∃ cause, value = .error cause ∧ c'.session = c.session) ∨
      o.settle shutdown = .value ⟨value, logs, c'⟩ := by
  rw [inTime] at h
  split at h
  · cases h
    exact .inl ⟨_, rfl, rfl⟩
  · exact .inr h

lemma session_of_settled (h : (connect net t c).settle shutdown = .value ⟨value, logs, c'⟩) :
    (∃ cause, value = .error cause ∧ c'.session = none) ∨
      ∃ s, net t.host t.port = .server s ∧ c'.session = t.sessionBehind s none value := by
  obtain ⟨_, hm⟩ := settle_of_logged h
  cases he : net t.host t.port with
  | unreachable reason =>
    rw [he] at hm
    cases hm
    exact .inl ⟨_, rfl, rfl⟩
  | silent =>
    rw [he] at hm
    rcases session_of_inTime hm with hlate | hm
    · exact .inl hlate
    · cases shutdown <;> cases hm
      exact .inl ⟨_, rfl, rfl⟩
  | failing reason =>
    rw [he] at hm
    rcases session_of_inTime hm with hlate | hm
    · exact .inl hlate
    · cases hm
      exact .inl ⟨_, rfl, rfl⟩
  | server s =>
    rw [he] at hm
    rcases session_of_inTime hm with hlate | hm
    · exact .inl hlate
    · exact .inr ⟨s, rfl, session_of_greet hm⟩

lemma session_of_connect (h : (connect net t c).settle shutdown = .value ⟨.ok (), logs, c'⟩) :
    ∃ s, net t.host t.port = .server s ∧ c'.session = some (t.opened s) := by
  rcases session_of_settled h with ⟨cause, hv, -⟩ | hs
  · cases hv
  · exact hs

lemma session_of_refused {cause : RunError}
    (h : (connect net t c).settle shutdown = .value ⟨.error cause, logs, c'⟩) :
    c'.session = none := by
  rcases session_of_settled h with ⟨_, -, hc⟩ | ⟨_, -, hc⟩
  · exact hc
  · exact hc

lemma standing_of_connect (hs : net t.host t.port = .server s) (hsteady : s.Steady)
    (h : (connect net t c).settle shutdown = .value ⟨.ok (), logs, c'⟩) :
    Standing s t.commandTimeout 0 c' := by
  obtain ⟨s', hs', hopened⟩ := session_of_connect h
  obtain rfl : s = s' := by simpa [hs] using hs'
  rw [Target.opened, hsteady.alwaysStands] at hopened
  exact ⟨_, _, hopened⟩

end Connect

structure Admitted (net : Network) (t : Target) (s : Server) (c opened : Client) : Prop where
  server : net t.host t.port = .server s
  opens : ∃ logs, (connect net t c).settle .never = .value ⟨.ok (), logs, opened⟩
  steady : s.Steady

/-- Every executed command is answered from its own script, and every result in the report is such
an answer; the run is that of a scripted session with these answers. A server whose scripts agree up
to their cuts gives the same run, whatever stands behind them. -/
theorem run_isolates_commands (net : Network) (t : Target) (s : Server) (c opened : Client)
    (commands : List String) (sinks : Sinks) (h : Admitted net t s c opened) :
    let e := run (connector net t) commands .never sinks c
    let answer (i : Nat) := answer? t.commandTimeout (s.scripts.getD i [])
    (∀ i command, (Event.commands e.events)[i]? = some command → commands[i]? = some command ∧
      ((connector net t).answers .never commands opened)[i]? = answer i command) ∧
    (∀ report, e.result = some (.ok report) → ∀ i r, report.results[i]? = some r →
      ∃ command, commands[i]? = some command ∧ answer i command = some (.ok r)) ∧
    e.Alike (run (scripted .session none) commands .never sinks
      (commands.mapIdx fun i command => Response.giving (answer i command))) ∧
    ∀ net' s' c' opened', Admitted net' t s' c' opened' →
      (∀ i, cut (spoken (s'.scripts.getD i [])) = cut (spoken (s.scripts.getD i []))) →
        e.Alike (run (connector net' t) commands .never sinks c') := by
  intro e answer
  obtain ⟨logs, hc⟩ := h.opens
  have hstanding := standing_of_connect h.server h.steady hc
  have hfollows : (connector net t).Follows .never answer (Standing s t.commandTimeout) :=
    connector_follows net t h.steady
  obtain ⟨hresult, hcommands⟩ := run_of_connected (k := connector net t) hc
  refine ⟨fun i command hi => ?_, fun report hr i r hi => ?_, ?_, ?_⟩
  · have hi' := answers_of_follows hfollows commands.length hstanding sinks (hcommands ▸ hi)
    rwa [Nat.zero_add] at hi'
  · have hi' := results_of_follows hfollows commands.length hstanding sinks (hresult ▸ hr) hi
    rwa [Nat.zero_add] at hi'
  · have hscripted := scripted_follows none
      (commands.mapIdx fun i command => Response.giving (answer i command))
    apply run_alike hfollows hscripted hc rfl hstanding rfl
    intro i command hi
    simp [List.getD_eq_getElem?_getD, List.getElem?_mapIdx, hi]
  · intro net' s' c' opened' h' hcuts
    obtain ⟨logs', hc'⟩ := h'.opens
    have hstanding' := standing_of_connect h'.server h'.steady hc'
    apply run_alike hfollows (connector_follows net' t h'.steady) hc hc' hstanding hstanding'
    intro i command _
    exact (answer?_congr (hcuts i) _ _).symm

theorem run_isolates_commands_leftovers :
    let t : Target := { host := "router", username := "root", password := "a", policy := .acceptAny }
    let c : Client := { files := {} }
    let s : Server :=
      { key := ⟨.ed25519 (List.replicate 32 1), ""⟩
        scripts := [
          [.message (.data [97]), .message (.status 0), .message .eof, .message (.data [98]),
            .message (.status 7), .message .close],
          [.message (.status 3), .message (.extended 1 [99]), .message .eof, .message .eof]] }
    let s' : Server := { s with scripts := s.scripts.map (·.take 3) }
    let e := run (connector (fun _ _ => .server s) t) ["x", "y", "z"] .never {} c
    e.result = some (.ok ⟨[⟨"x", "a", "", 0⟩, ⟨"y", "", "c", 3⟩], .stopped 1 3⟩) ∧
      e.Alike (run (connector (fun _ _ => .server s') t) ["x", "y", "z"] .never {} c) := by
  intro t c s s' e
  have admitted (scripts : List (List ChannelEvent))
      (hd : ∀ script ∈ scripts, .disconnect ∉ script) :
      Admitted (fun _ _ => .server { s with scripts }) t { s with scripts } c
        { c with
          sent := [.login "root" "a"]
          session := some ⟨t.address, { s with scripts }, none, true, true, 0, 0⟩ } :=
    ⟨rfl, ⟨_, rfl⟩, fun _ => rfl, fun _ => rfl, hd⟩
  have h := admitted s.scripts (by decide)
  have h' := admitted s'.scripts (by decide)
  obtain ⟨-, -, hscripted, halike⟩ := run_isolates_commands _ t s c _ ["x", "y", "z"] {} h
  refine ⟨hscripted.1.trans (by decide +kernel), halike _ s' c _ h' ?_⟩
  intro i
  match i with
  | 0 => decide
  | 1 => decide
  | i + 2 => rfl

end RemoteBatch.Remote
