import RemoteBatch.Proofs.Remote.Isolation
import RemoteBatch.Proofs.Remote.Refusal
import RemoteBatch.Proofs.Run.Alarms

/-! Which errors are fatal to connecting. Every way in which connecting fails gives such an error,
and all but one log an alarm: that the credentials cannot be sent is logged nowhere. A policy that
accepts a key, a session that is interrupted or fails later, and one that cannot be closed log none.
-/

namespace RemoteBatch

namespace HostKey.Policy

variable {t : FileTree} {host : String} {port : Nat} {key : PublicKey}

lemma calm_acceptNew (path : Path) : Calm (acceptNew t path host port key).logs := by
  rw [acceptNew]
  split <;> simp [Verdict.pass, Topic.warn]

lemma calm_verify {p : Policy} (h : (p.verify t host port key).accepted) :
    Calm (p.verify t host port key).logs := by
  cases p with
  | acceptAny => simp [verify, Verdict.pass, Topic.warn]
  | trustOnFirstUse path =>
    rw [verify, verifyFirstUse] at h ⊢
    split <;> rename_i hl
    · exact calm_nil
    · simp [hl, Verdict.refuse] at h
    · exact calm_acceptNew _
    · exact calm_acceptNew _
  | strictKnownHosts path =>
    rw [verify, verifyStrict] at h ⊢
    split <;> rename_i hl
    · exact calm_nil
    all_goals simp [hl, Verdict.refuse] at h
  | rejectUnknown fingerprints =>
    rw [verify, verifyPinned] at h ⊢
    split
    · simp [Verdict.pass, Topic.debug]
    · rename_i hl
      simp [hl, Verdict.refuse] at h

end HostKey.Policy

namespace Remote

open Run HostKey

section Connecting

variable {net : Network} {t : Target} {s : Server} {c : Client} {files : FileTree} {quiet : Prop}

/-- A server is met and its key accepted, but the credentials cannot be sent. -/
structure LoginFails (net : Network) (t : Target) (files : FileTree) (s : Server)
    (reason : String) : Prop where
  server : net t.host t.port = .server s
  inTime : t.connectTimeout.millis ≠ 0
  accepted : (t.policy.verify files t.host t.port s.key).accepted
  completes : s.keyExchange = .completes
  fails : s.login = .fails reason

lemma exists_loginFails_iff (hs : net t.host t.port = .server s) :
    (∃ s reason, LoginFails net t files s reason) ↔
      t.connectTimeout.millis ≠ 0 ∧ (t.policy.verify files t.host t.port s.key).accepted ∧
        s.keyExchange = .completes ∧ ∃ reason, s.login = .fails reason := by
  constructor
  · rintro ⟨s', reason, h⟩
    obtain rfl : s' = s := by simpa [hs] using h.server.symm
    exact ⟨h.inTime, h.accepted, h.completes, reason, h.fails⟩
  · rintro ⟨h0, ha, hk, reason, hl⟩
    exact ⟨s, reason, hs, h0, ha, hk, hl⟩

lemma not_loginFails (h : ∀ s, net t.host t.port ≠ .server s) :
    ¬∃ s reason, LoginFails net t files s reason :=
  fun ⟨s, _, hf⟩ => h s hf.server

lemma logged_fits {before : List LogEntry} (hb : Calm before)
    {o : Outcome Client (Except RunError Unit)} (h : o.Ends (Opening.Fits quiet)) :
    (logged before o).Ends (Opening.Fits quiet) := by
  cases o with
  | done reply => exact Opening.Fits.append h hb
  | stalls noticed later state late => exact ⟨calm_append.2 ⟨hb, h.1⟩, h.2⟩

lemma fits_of_alarm {cause : RunError} {logs : List LogEntry} (hf : cause.isFatalConnect)
    (ha : ¬Calm logs) (hq : ¬quiet) : Opening.Fits quiet (.error cause) logs :=
  ⟨hf, iff_of_false ha hq⟩

lemma timedOut_fits (what : String) (t : Target) (c : Client) (hq : ¬quiet) :
    Opening.Fits quiet (timedOut what t c).value (timedOut what t c).logs :=
  fits_of_alarm rfl (by simp [timedOut, Topic.error]) hq

lemma stalls_fits (what : String) (t : Target) (c : Client) (hq : ¬quiet) :
    (Outcome.stalls true [] c (some (timedOut what t c))).Ends (Opening.Fits quiet) := by
  refine ⟨calm_nil, ?_⟩
  rintro _ ⟨⟩
  exact timedOut_fits what t c hq

lemma handshakeFailed_fits (reason : String) (c : Client) (hq : ¬quiet) :
    Opening.Fits quiet (handshakeFailed reason c).value (handshakeFailed reason c).logs :=
  fits_of_alarm rfl (by simp [handshakeFailed, Topic.error]) hq

lemma loginRejected_fits (t : Target) (c : Client) (hq : ¬quiet) :
    Opening.Fits quiet (loginRejected t c).value (loginRejected t c).logs :=
  fits_of_alarm rfl (by simp [loginRejected, Topic.error]) hq

lemma loginFailed_fits (reason : String) (c : Client) (hq : quiet) :
    Opening.Fits quiet (loginFailed reason c).value (loginFailed reason c).logs :=
  ⟨rfl, iff_of_true calm_nil hq⟩

lemma calm_loginAccepted (t : Target) (s : Server) (c : Client) :
    Calm (loginAccepted t s c).logs := by
  simp [loginAccepted, Topic.info]

lemma abandoned_fits (lost : Bool) {failed : Reply Client (Except RunError Unit)}
    (h : Opening.Fits quiet failed.value failed.logs) :
    Opening.Fits quiet (abandoned lost failed).value (abandoned lost failed).logs :=
  h.congr (by cases lost <;> simp [abandoned, Topic.debug])

lemma login_fits (t : Target) (s : Server) (c : Client) :
    (login t s c).Ends (Opening.Fits (∃ reason, s.login = .fails reason)) := by
  simp only [login]
  cases s.login with
  | accept => exact calm_loginAccepted t s _
  | reject => exact abandoned_fits _ (loginRejected_fits t _ (by simp))
  | check user password =>
    dsimp only
    split
    · exact calm_loginAccepted t s _
    · exact abandoned_fits _ (loginRejected_fits t _ (by simp))
  | hang =>
    refine ⟨calm_nil, ?_⟩
    rintro _ ⟨⟩
    exact abandoned_fits _ (timedOut_fits _ t _ (by simp))
  | disconnect => exact abandoned_fits _ (loginRejected_fits t _ (by simp))
  | fails reason => exact abandoned_fits _ (loginFailed_fits reason c ⟨reason, rfl⟩)

lemma greet_fits (t : Target) (s : Server) (c : Client) :
    (greet t s c).Ends (Opening.Fits ((t.policy.verify c.files t.host t.port s.key).accepted ∧
      s.keyExchange = .completes ∧ ∃ reason, s.login = .fails reason)) := by
  cases h : (t.policy.verify c.files t.host t.port s.key).accepted with
  | true =>
    simp only [greet, h, if_true]
    apply logged_fits (Policy.calm_verify h)
    cases s.keyExchange with
    | completes =>
      apply logged_fits
      · simp [Topic.debug]
      · simpa only [true_and] using login_fits t s _
    | fails reason => exact handshakeFailed_fits reason _ (by simp)
    | hang => exact stalls_fits _ t _ (by simp)
  | false =>
    rw [greet_of_refused h]
    exact fits_of_alarm rfl (by simp [Topic.error]) (by simp)

lemma inTime_fits {o : Outcome Client (Except RunError Unit)}
    (h : t.connectTimeout.millis ≠ 0 → o.Ends (Opening.Fits quiet))
    (hq : t.connectTimeout.millis = 0 → ¬quiet) : (inTime t c o).Ends (Opening.Fits quiet) := by
  rw [inTime]
  split
  · next h0 => exact timedOut_fits _ t c (hq h0)
  · next h0 => exact h h0

lemma calm_announcement (t : Target) : Calm (announcement t) := by
  rw [announcement]
  split <;> simp [Topic.info, Topic.warn]

lemma connect_fits (net : Network) (t : Target) (c : Client) :
    (connect net t c).Ends
      (Opening.Fits (∃ s reason, LoginFails net t c.files s reason)) := by
  apply logged_fits (calm_announcement t)
  cases he : net t.host t.port with
  | unreachable reason => exact handshakeFailed_fits _ _ (not_loginFails (by simp [he]))
  | silent =>
    have hq : ¬∃ s reason, LoginFails net t c.files s reason := not_loginFails (by simp [he])
    exact inTime_fits (fun _ => stalls_fits _ t _ hq) fun _ => hq
  | failing reason =>
    have hq : ¬∃ s reason, LoginFails net t c.files s reason := not_loginFails (by simp [he])
    exact inTime_fits (fun _ => handshakeFailed_fits _ _ hq) fun _ => hq
  | server s =>
    rw [exists_loginFails_iff he]
    refine inTime_fits (fun h0 => ?_) fun h0 h => h.1 h0
    simpa only [ne_eq, h0, not_false_eq_true, true_and] using
      greet_fits t s { c with session := none }

lemma login_of_fails {reason : String} (h : s.login = .fails reason) :
    login t s c = .done (abandoned (!s.stands 0) (loginFailed reason c)) := by
  rw [login, h]

lemma connect_of_loginFails {reason : String} (h : LoginFails net t c.files s reason)
    (shutdown : Shutdown) :
    ∃ logs c', (connect net t c).settle shutdown =
      .value ⟨.error (.authentication reason), logs, c'⟩ ∧ c'.sent = c.sent := by
  simp only [connect, h.server, meet, inTime, h.inTime, if_false, greet, h.accepted, if_true,
    h.completes, login_of_fails h.fails]
  exact ⟨_, _, rfl, rfl⟩

end Connecting

lemma calm_signalLogs (g : Gathered) : Calm (signalLogs g) := by
  simp [Calm, signalLogs, Topic.debug]

lemma isMidRun_of_result {g : Gathered} {command : String} {cause : RunError}
    (h : g.result command = .error cause) : isMidRun cause := by
  rw [Gathered.result] at h
  cases hs : g.status with
  | none =>
    rw [hs] at h
    cases h
    rfl
  | some n =>
    rw [hs] at h
    cases h

lemma concluded_fits (command : String) (g : Gathered) (c : Client) :
    Answer.Fits (concluded command g c).value (concluded command g c).logs := by
  refine ⟨?_, fun cause hc => isMidRun_of_result hc⟩
  refine calm_append.2 ⟨calm_signalLogs g, ?_⟩
  cases g.result command with
  | ok r => simp [completed, Topic.debug]
  | error cause => exact calm_nil

lemma commandTimedOut_fits (command : String) (limit : Duration) (c : Client) :
    Answer.Fits (commandTimedOut command limit c).value (commandTimedOut command limit c).logs := by
  refine ⟨by simp [commandTimedOut, Topic.warn], ?_⟩
  rintro _ ⟨⟩
  rfl

lemma await_fits (command : String) (ses : Session) (script : List ChannelEvent) (c : Client) :
    (await command ses script c).Ends Answer.Fits := by
  rw [await]
  split
  · exact concluded_fits command _ _
  · exact concluded_fits command _ _
  · refine ⟨calm_signalLogs _, fun reply hr => ?_⟩
    obtain ⟨limit, -, rfl⟩ := Option.map_eq_some_iff.1 hr
    exact commandTimedOut_fits command limit _

lemma channelError_fits (reason : String) (c : Client) :
    (channelError reason c).Ends Answer.Fits := by
  refine ⟨calm_nil, ?_⟩
  rintro _ ⟨⟩
  rfl

lemma send_fits (command : String) (ses : Session) (c : Client) :
    (send command ses c).Ends Answer.Fits := by
  rw [send_eq]
  dsimp only
  split_ifs
  · exact commandTimedOut_fits command _ _
  · exact await_fits command _ _ _

lemma exec_fits (command : String) (c : Client) : (exec command c).Ends Answer.Fits := by
  rcases exec_cases command c with ⟨ses, h⟩ | ⟨c', ⟨reason, h⟩ | h, -⟩ <;> rw [h]
  · exact send_fits command ses c
  · exact channelError_fits reason c'
  · refine ⟨calm_nil, ?_⟩
    rintro _ ⟨⟩

lemma calm_close (c : Client) : Calm (close c).logs := by
  rw [close]
  split
  · exact calm_nil
  · split_ifs
    · exact calm_nil
    all_goals simp [Topic.info]

lemma connector_alarms (net : Network) (t : Target) :
    (connector net t).Alarms fun c => ∃ s reason, LoginFails net t c.files s reason :=
  ⟨connect_fits net t, exec_fits, calm_close⟩

/-- A run ends with an error that is fatal to connecting just when connecting ended with it, and
then without a session; what goes wrong in a session is another kind of error. Of all runs just
those that end so log an error, but for those in which the credentials could not be sent. -/
theorem fatal_iff_connect_failed (net : Network) (t : Target) (commands : List String)
    (shutdown : Shutdown) (sinks : Sinks) (c : Client) (hs : shutdown.Calm) :
    let e := run (connector net t) commands shutdown sinks c
    (∀ cause, e.result = some (.error cause) ∧ cause.isFatalConnect ↔
      ∃ logs c', (connect net t c).settle shutdown = .value ⟨.error cause, logs, c'⟩) ∧
    (∀ cause, e.result = some (.error cause) → cause.isFatalConnect →
      Event.Unopened e.events ∧ e.state.session = none) ∧
    (∀ cause logs c', (connect net t c).settle shutdown = .value ⟨.ok (), logs, c'⟩ →
      e.result = some (.error cause) → isMidRun cause) ∧
    ((∃ entry ∈ Event.logs e.events, entry.level = .error) ↔
      (∃ cause, e.result = some (.error cause) ∧ cause.isFatalConnect) ∧
        ¬∃ s reason, LoginFails net t c.files s reason) ∧
    ∀ s reason, LoginFails net t c.files s reason →
      e.result = some (.error (.authentication reason)) ∧ e.state.sent = c.sent := by
  intro e
  rw [← not_calm_iff]
  rcases run_fits (connector_alarms net t) hs commands sinks c with
    ⟨cause, logs, c', hc, he, hfatal, hquiet⟩ | ⟨hc, hcalm, hmid⟩
  · have he : e = _ := he
    have hresult : e.result = some (.error cause) := by rw [he]
    refine ⟨fun cause' => ⟨?_, ?_⟩, ?_, ?_, ?_, ?_⟩
    · rintro ⟨h, -⟩
      rw [hresult] at h
      cases h
      exact ⟨logs, c', hc⟩
    · rintro ⟨logs', c'', hc'⟩
      cases hc.symm.trans hc'
      exact ⟨hresult, hfatal⟩
    · intro cause' _ _
      exact ⟨⟨logs, by rw [he]⟩, by rw [he]; exact session_of_refused hc⟩
    · intro cause' logs' c'' hc' _
      cases hc.symm.trans hc'
    · rw [hquiet, and_iff_right ⟨cause, hresult, hfatal⟩]
    · intro s reason h
      obtain ⟨logs', c'', hc', hsent⟩ := connect_of_loginFails h shutdown
      cases hc.symm.trans hc'
      exact ⟨hresult, by rw [he]; exact hsent⟩
  · have none (cause : RunError) (h : e.result = some (.error cause)) (hf : cause.isFatalConnect) :
        False := by
      rw [not_isFatalConnect_of_isMidRun (hmid cause h)] at hf
      cases hf
    refine ⟨fun cause => ⟨?_, ?_⟩, ?_, ?_, ?_, ?_⟩
    · rintro ⟨h, hf⟩
      exact (none cause h hf).elim
    · rintro ⟨logs, c', hc'⟩
      exact absurd hc' (hc cause logs c')
    · intro cause h hf
      exact (none cause h hf).elim
    · intro cause _ _ _ h
      exact hmid cause h
    · refine iff_of_false (not_not.2 hcalm) ?_
      rintro ⟨⟨cause, h, hf⟩, -⟩
      exact none cause h hf
    · intro s reason h
      obtain ⟨logs', c'', hc', -⟩ := connect_of_loginFails h shutdown
      exact absurd hc' (hc _ logs' c'')

def alarmTarget : Target :=
  { host := "router", username := "root", password := "a", policy := .acceptAny }

def droppingServer : Server :=
  { key := ⟨.ed25519 (List.replicate 32 1), ""⟩, scripts := [[.disconnect]] }

def runWithLogin (login : Login) : Execution Client :=
  run (connector (fun _ _ => .server { droppingServer with login }) alarmTarget) ["x"]
    (.onStall []) {} { files := {} }

lemma calm_onStall_nil : (Shutdown.onStall []).Calm := by
  rintro _ ⟨⟩
  exact calm_nil

lemma loginFails_droppingServer (reason : String) :
    LoginFails (fun _ _ => .server { droppingServer with login := .fails reason }) alarmTarget {}
      { droppingServer with login := .fails reason } reason :=
  ⟨rfl, by decide, rfl, rfl, rfl⟩

/-- One server refuses the password. Another is gone before it is sent, and one drops the connection
during a command, so that closing fails. -/
theorem fatal_iff_connect_failed_dropped :
    let refused := runWithLogin .reject
    let gone := runWithLogin (.fails "Channel send error")
    let dropped := runWithLogin .accept
    ((∃ entry ∈ Event.logs refused.events, entry.level = .error) ∧ refused.state.session = none) ∧
      (gone.result = some (.error (.authentication "Channel send error")) ∧
        ∀ entry ∈ Event.logs gone.events, entry.level ≠ .error) ∧
      dropped.result = some (.error (.channel "Channel closed without an exit status")) ∧
      Event.close ∈ dropped.events ∧ ∀ entry ∈ Event.logs dropped.events, entry.level ≠ .error := by
  intro refused gone dropped
  obtain ⟨-, hsession, -, halarm, -⟩ := fatal_iff_connect_failed
    (fun _ _ => .server { droppingServer with login := .reject }) alarmTarget ["x"] (.onStall []) {}
    { files := {} } calm_onStall_nil
  obtain ⟨-, -, -, hquiet, hgone⟩ := fatal_iff_connect_failed
    (fun _ _ => .server { droppingServer with login := .fails "Channel send error" }) alarmTarget
    ["x"] (.onStall []) {} { files := {} } calm_onStall_nil
  obtain ⟨-, -, -, hcalm, -⟩ := fatal_iff_connect_failed
    (fun _ _ => .server { droppingServer with login := .accept }) alarmTarget ["x"] (.onStall []) {}
    { files := {} } calm_onStall_nil
  have hfails := loginFails_droppingServer "Channel send error"
  have hrefused : refused.result = some (.error (.authentication
      "Password authentication rejected for user 'root'")) := by decide +kernel
  have hdropped : dropped.result = some (.error (.channel
      "Channel closed without an exit status")) := by decide +kernel
  have hloud : ¬∃ s reason, LoginFails (fun _ _ => .server { droppingServer with login := .reject })
      alarmTarget {} s reason := by
    rintro ⟨s, reason, h⟩
    obtain rfl := Endpoint.server.inj h.server
    cases h.fails
  refine ⟨⟨halarm.2 ⟨⟨_, hrefused, rfl⟩, hloud⟩, (hsession _ hrefused rfl).2⟩,
    ⟨(hgone _ _ hfails).1, ?_⟩, hdropped, by decide +kernel, ?_⟩
  · intro entry he hlevel
    exact (hquiet.1 ⟨entry, he, hlevel⟩).2 ⟨_, _, hfails⟩
  · intro entry he hlevel
    obtain ⟨⟨cause, hcause, hfatal⟩, -⟩ := hcalm.1 ⟨entry, he, hlevel⟩
    cases hdropped.symm.trans hcause
    cases hfatal

/-- A run can end with an error that is fatal to connecting and log none. -/
theorem not_alarm_of_fatal :
    ¬∀ (net : Network) (t : Target) (commands : List String) (shutdown : Shutdown) (sinks : Sinks)
      (c : Client), shutdown.Calm →
      let e := run (connector net t) commands shutdown sinks c
      (∃ entry ∈ Event.logs e.events, entry.level = .error) ↔
        ∃ cause, e.result = some (.error cause) ∧ cause.isFatalConnect := by
  intro h
  have hresult : (runWithLogin (.fails "Channel send error")).result =
      some (.error (.authentication "Channel send error")) := by decide +kernel
  have hlogs : ∀ entry ∈ Event.logs (runWithLogin (.fails "Channel send error")).events,
      entry.level ≠ .error := by decide +kernel
  obtain ⟨entry, he, hlevel⟩ := (h _ _ _ _ _ _ calm_onStall_nil).2 ⟨_, hresult, rfl⟩
  exact hlogs entry he hlevel

end Remote

end RemoteBatch
