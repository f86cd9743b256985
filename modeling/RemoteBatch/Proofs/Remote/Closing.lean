import Mathlib.Data.List.Induction
import Mathlib.Data.Nat.Count
import RemoteBatch.Proofs.Remote.Isolation

/-! Calls on one session. Up to the first request to close it, and while the connection stands,
every command asks for a channel of its own, which alone decides what the command is answered. The
first request to close disconnects; the session is closed whether or not that comes through, and
behind it nothing is sent. -/

namespace RemoteBatch

namespace Run

variable {σ α : Type}

def Outcome.answer? (o : Outcome σ α) : Option α :=
  match o.settle .never with
  | .value reply => some reply.value
  | .interrupted _ _ | .never _ _ => none

@[simp] lemma state_settle_done (shutdown : Shutdown) (reply : Reply σ α) :
    ((Outcome.done reply).settle shutdown).state = reply.state := rfl

lemma state_settle_stalls {noticed : Bool} {logs : List LogEntry} {state : σ}
    {late : Option (Reply σ α)} (h : ∀ reply ∈ late, reply.state = state) (shutdown : Shutdown) :
    ((Outcome.stalls noticed logs state late).settle shutdown).state = state := by
  rcases shutdown with _ | notice <;> rcases noticed with _ | _ <;> rcases late with _ | reply <;>
    first | rfl | exact h reply rfl

lemma answer?_stalls (noticed : Bool) (logs : List LogEntry) (state : σ)
    (late : Option (Reply σ α)) :
    (Outcome.stalls noticed logs state late).answer? = late.map (·.value) := by
  cases late <;> rfl

end Run

namespace Remote

open Run

def Server.playedBefore (s : Server) (n : Nat) : Nat := Nat.count (s.start · = .opens) n

lemma Server.playedBefore_succ (s : Server) (n : Nat) :
    s.playedBefore (n + 1) = s.playedBefore n + if s.start n = .opens then 1 else 0 :=
  Nat.count_succ _ n

def Server.script? (s : Server) (n : Nat) : Option (List ChannelEvent) :=
  if s.start n = .opens then some (s.scripts.getD (s.playedBefore n) []) else none

/-- Whether a script costs the connection. Within a limit of zero nothing of it is seen. -/
def drops (limit : Option Duration) (script : List ChannelEvent) : Bool :=
  limit ≠ some ⟨0⟩ && dropsLater script

def channelAnswer? (limit : Option Duration) (command : String) (script : List ChannelEvent) :
    Option (Except RunError CommandResult) :=
  if endsReading (cut (heard limit script)) || drops limit script then
    some (collected command (cut (heard limit script)))
  else limit.map fun l => .error (.timeout l)

/-- The answer to a command, told from its channel, for the opening of which there is no limit. -/
def Server.answer? (s : Server) (limit : Option Duration) (command : String) (n : Nat) :
    Option (Except RunError CommandResult) :=
  match s.start n with
  | .opens => channelAnswer? limit command (s.scripts.getD (s.playedBefore n) [])
  | .refused reason => some (.error (.channel s!"Failed to open channel: {reason}"))
  | .hang => none
  | .fails reason => some (.error (.channel s!"Failed to exec command: {reason}"))

lemma Server.answer?_of_script {s : Server} {n : Nat} {script : List ChannelEvent}
    (h : s.script? n = some script) (limit : Option Duration) (command : String) :
    s.answer? limit command n = channelAnswer? limit command script := by
  rw [script?] at h
  split_ifs at h with ho
  cases h
  rw [answer?, ho]

def Server.dropsAt (s : Server) (limit : Option Duration) (n : Nat) : Bool :=
  !s.stands (n + 1) || (s.script? n).any (drops limit)

def Server.StandsTo (s : Server) (limit : Option Duration) (n : Nat) : Prop :=
  s.stands 0 ∧ ∀ i < n, s.dropsAt limit i = false

instance (s : Server) (limit : Option Duration) (n : Nat) : Decidable (s.StandsTo limit n) :=
  inferInstanceAs (Decidable (_ ∧ _))

lemma Server.standsTo_succ {s : Server} {limit : Option Duration} {n : Nat} :
    s.StandsTo limit (n + 1) ↔ s.StandsTo limit n ∧ s.dropsAt limit n = false := by
  constructor
  · rintro ⟨h0, h⟩
    exact ⟨⟨h0, fun i hi => h i (Nat.lt_succ_of_lt hi)⟩, h n (Nat.lt_succ_self n)⟩
  · rintro ⟨⟨h0, h⟩, hn⟩
    refine ⟨h0, fun i hi => ?_⟩
    rcases Nat.lt_succ_iff_lt_or_eq.1 hi with hi | rfl
    · exact h i hi
    · exact hn

lemma dropsLater_of_not_finishes {script : List ChannelEvent} (h : finishes script = false) :
    dropsLater script = false :=
  (Bool.or_eq_false_iff.1 h).2

lemma await_of_script (command : String) (ses : Session) (script : List ChannelEvent) (c : Client) :
    (∀ shutdown, ((await command ses script c).settle shutdown).state =
      { c with session := some { ses with isUp := !dropsLater script && ses.isUp } }) ∧
    (await command ses script c).answer? =
      if finishes script then some (collected command (cut (spoken script)))
      else ses.commandTimeout.map fun l => .error (.timeout l) := by
  rcases await_cases command ses script c with ⟨h, ha⟩ | ⟨h, ha⟩
  · rw [ha, h]
    exact ⟨fun _ => rfl, rfl⟩
  · rw [ha, h, dropsLater_of_not_finishes h]
    refine ⟨state_settle_stalls ?_, ?_⟩
    · simp [commandTimedOut]
    · rw [answer?_stalls]
      cases ses.commandTimeout <;> rfl

def Serving (t : Target) (s : Server) (n : Nat) (c : Client) : Prop :=
  c.session = some ⟨t.address, s, t.commandTimeout, true, true, n, s.playedBefore n⟩

section OneCall

variable {t : Target} {s : Server} {n : Nat} {c : Client} (command : String)

lemma exec_of_serving (h : Serving t s n c) :
    (∀ shutdown, ∃ sent, ((exec command c).settle shutdown).state =
      { c with
        sent
        session := some ⟨t.address, s, t.commandTimeout, true, !s.dropsAt t.commandTimeout n, n + 1,
          s.playedBefore (n + 1)⟩ }) ∧
    (exec command c).answer? = s.answer? t.commandTimeout command n := by
  have hc : c.session = _ := h
  rw [Server.dropsAt, Server.script?, Server.answer?, Server.playedBefore_succ]
  cases hs : s.start n with
  | refused reason | hang | fails reason =>
    simp only [exec, hc, hs, reduceCtorEq, if_false]
    exact ⟨fun shutdown => ⟨c.sent, by cases shutdown <;> simp <;> rfl⟩, rfl⟩
  | opens =>
    have he : exec command c = send command
        ⟨t.address, s, t.commandTimeout, true, s.stands (n + 1), n + 1, s.playedBefore n⟩ c := by
      simp [exec, hc, hs]
    rw [if_pos rfl, if_pos rfl, he, send_eq]
    dsimp only
    by_cases h0 : t.commandTimeout = some ⟨0⟩
    · rw [if_pos h0]
      refine ⟨fun _ => ⟨c.sent ++ [.command command], ?_⟩, ?_⟩
      · simp [commandTimedOut, drops, h0]
      · simp [channelAnswer?, heard, drops, h0]
        rfl
    · obtain ⟨hstate, hanswer⟩ := await_of_script command
        ⟨t.address, s, t.commandTimeout, true, s.stands (n + 1), n + 1, s.playedBefore n + 1⟩
        (s.scripts.getD (s.playedBefore n) [])
        { c with
          session := some ⟨t.address, s, t.commandTimeout, true, s.stands (n + 1), n + 1,
            s.playedBefore n + 1⟩
          sent := c.sent ++ [.command command] }
      rw [if_neg h0, hanswer]
      refine ⟨fun shutdown => ⟨c.sent ++ [.command command], (hstate shutdown).trans ?_⟩, ?_⟩
      · simp [drops, h0, Bool.and_comm]
      · simp [channelAnswer?, heard, drops, h0, finishes]

end OneCall

lemma exec_of_closed {c : Client} {ses : Session} (hc : c.session = some ses)
    (h : ses.isOpen = false) (command : String) :
    exec command c = channelError "SSH session already closed" c := by
  simp [exec, hc, h]

lemma exec_of_down {c : Client} {ses : Session} (hc : c.session = some ses) (h : ses.isOpen)
    (hd : ses.isUp = false) (command : String) :
    exec command c = channelError "Failed to open channel: Channel send error" c := by
  simp [exec, hc, h, hd]

lemma close_of_closed {c : Client} {ses : Session} (hc : c.session = some ses)
    (h : ses.isOpen = false) : close c = { value := .ok (), state := c } := by
  simp [close, hc, h]

lemma close_of_open {c : Client} {ses : Session} (hc : c.session = some ses) (h : ses.isOpen) :
    close c =
      { value := if ses.isUp then .ok ()
          else .error (.connection "Failed to disconnect: Channel send error")
        logs := [Topic.connection.info s!"SSH connection to {ses.address} closed"]
        state := { c.hungUp with session := some { ses with isOpen := false } } } := by
  simp [close, hc, h]

/-- What is asked of a session. Who waits for a command may give up on it when it stalls. -/
inductive Call
  | exec (command : String) (shutdown : Shutdown)
  | close

def Call.after : Call → Client → Client
  | exec command shutdown, c => ((Remote.exec command c).settle shutdown).state
  | close, c => (Remote.close c).state

def after (calls : List Call) (c : Client) : Client := calls.foldl (fun c call => call.after c) c

lemma after_concat (calls : List Call) (call : Call) (c : Client) :
    after (calls ++ [call]) c = call.after (after calls c) := by
  simp [after]

def Client.isOpen (c : Client) : Bool := c.session.any (·.isOpen)

def Client.isUp (c : Client) : Bool := c.session.any (·.isUp)

structure Open (t : Target) (s : Server) (n : Nat) (c : Client) : Prop where
  standing : ∃ up channels commands,
    c.session = some ⟨t.address, s, t.commandTimeout, true, up, channels, commands⟩
  up_iff : c.isUp ↔ s.StandsTo t.commandTimeout n
  serving : c.isUp → Serving t s n c

def Closed (c : Client) : Prop := ∃ ses, c.session = some ses ∧ ses.isOpen = false

section Calls

variable {t : Target} {s : Server} {n : Nat} {c : Client}

lemma open_of_opened (h : c.session = some (t.opened s)) : Open t s 0 c := by
  have hup : c.isUp = s.stands 0 := by simp [Client.isUp, h, Target.opened]
  refine ⟨⟨_, _, _, h⟩, ?_, fun hu => ?_⟩
  · simp [hup, Server.StandsTo]
  · rw [Serving, h, Target.opened, ← hup, hu]
    rfl

lemma Open.exec (h : Open t s n c) (command : String) (shutdown : Shutdown) :
    Open t s (n + 1) ((Call.exec command shutdown).after c) ∧
      ((Call.exec command shutdown).after c).disconnects = c.disconnects := by
  by_cases hu : c.isUp
  · obtain ⟨sent, hs⟩ := (exec_of_serving command (h.serving hu)).1 shutdown
    rw [Call.after, hs]
    refine ⟨⟨⟨_, _, _, rfl⟩, ?_, fun hn => ?_⟩, rfl⟩
    · rw [Server.standsTo_succ, and_iff_right (h.up_iff.1 hu)]
      simp [Client.isUp]
    · have hn : s.dropsAt t.commandTimeout n = false := by simpa [Client.isUp] using hn
      simp [Serving, hn]
  -- Without the connection no channel is asked for, and what cost it stays among those before.
  · obtain ⟨up, channels, commands, hc⟩ := h.standing
    have hdown : up = false := by simpa [Client.isUp, hc] using hu
    rw [Call.after, exec_of_down hc rfl hdown]
    refine ⟨⟨⟨_, _, _, hc⟩, ?_, fun hu' => absurd hu' hu⟩, rfl⟩
    rw [Server.standsTo_succ]
    exact ⟨fun hu' => absurd hu' hu, fun hd => h.up_iff.2 hd.1⟩

lemma Open.close (h : Open t s n c) :
    Closed (Call.close.after c) ∧ (Call.close.after c).disconnects = c.disconnects + 1 := by
  obtain ⟨up, channels, commands, hc⟩ := h.standing
  rw [Call.after, close_of_open hc rfl]
  exact ⟨⟨_, rfl, rfl⟩, rfl⟩

lemma Closed.after (h : Closed c) (call : Call) : call.after c = c := by
  obtain ⟨ses, hc, ho⟩ := h
  cases call with
  | exec command shutdown => rw [Call.after, exec_of_closed hc ho]; rfl
  | close => rw [Call.after, close_of_closed hc ho]

lemma open_after (h : Open t s 0 c) {calls : List Call} (hcalls : .close ∉ calls) :
    Open t s calls.length (after calls c) ∧ (after calls c).disconnects = c.disconnects := by
  induction calls using List.reverseRecOn with
  | nil => exact ⟨h, rfl⟩
  | append_singleton calls call ih =>
    rw [List.mem_append, List.mem_singleton, not_or] at hcalls
    obtain ⟨ho, hd⟩ := ih hcalls.1
    rw [after_concat, List.length_append, List.length_singleton]
    cases call with
    | exec command shutdown =>
      obtain ⟨ho', hd'⟩ := ho.exec command shutdown
      exact ⟨ho', hd'.trans hd⟩
    | close => exact absurd rfl hcalls.2

lemma closed_after (h : Open t s 0 c) {calls : List Call} (hcalls : .close ∈ calls) :
    Closed (after calls c) ∧ (after calls c).disconnects = c.disconnects + 1 := by
  induction calls using List.reverseRecOn with
  | nil => cases hcalls
  | append_singleton calls call ih =>
    rw [after_concat]
    -- The first request to close is among the earlier calls, or it is the last one.
    by_cases hin : .close ∈ calls
    · obtain ⟨hc, hd⟩ := ih hin
      rw [hc.after]
      exact ⟨hc, hd⟩
    · obtain rfl : Call.close = call := by simpa [hin] using hcalls
      obtain ⟨ho, hd⟩ := open_after h hin
      obtain ⟨hc', hd'⟩ := ho.close
      exact ⟨hc', by rw [hd', hd]⟩

end Calls

/-- Of all calls on an established session the first request to close, and only that, disconnects,
and closes the session whether or not that fails. Up to there no command changes whether the session
is open; as long as the connection stands each is answered from its own channel, whatever those
before it came to, and without the connection each fails. Behind it commands fail and further
requests do nothing; neither sends anything. -/
theorem session_closes_once (net : Network) (t : Target) (c₀ c : Client) (shutdown : Shutdown)
    (logs : List LogEntry) (h : (connect net t c₀).settle shutdown = .value ⟨.ok (), logs, c⟩)
    (calls : List Call) :
    let d := after calls c
    ∃ s, net t.host t.port = .server s ∧
      (.close ∉ calls →
        d.isOpen ∧ d.disconnects = c.disconnects ∧
        (close d).state.isOpen = false ∧ (close d).state.disconnects = c.disconnects + 1 ∧
        (close d).value = (if d.isUp then .ok ()
          else .error (.connection "Failed to disconnect: Channel send error")) ∧
        (d.isUp ↔ s.StandsTo t.commandTimeout calls.length) ∧
        (d.isUp → ∀ command, (exec command d).answer? =
          s.answer? t.commandTimeout command calls.length) ∧
        (d.isUp = false → ∀ command, exec command d = .done
          { value := .error (.channel "Failed to open channel: Channel send error")
            state := d })) ∧
      (.close ∈ calls →
        d.isOpen = false ∧ d.disconnects = c.disconnects + 1 ∧
        close d = { value := .ok (), state := d } ∧
        ∀ command, exec command d =
          .done { value := .error (.channel "SSH session already closed"), state := d }) := by
  intro d
  obtain ⟨s, hs, hc⟩ := session_of_connect h
  have hopen : Open t s 0 c := open_of_opened hc
  refine ⟨s, hs, fun hcalls => ?_, fun hcalls => ?_⟩
  · obtain ⟨hd, hcount⟩ := open_after hopen hcalls
    obtain ⟨up, channels, commands, hses⟩ := hd.standing
    have hup : d.isUp = up := by simp [d, Client.isUp, hses]
    have hclose := close_of_open hses rfl
    refine ⟨by simp [d, Client.isOpen, hses], hcount, ?_, ?_, ?_, hd.up_iff, ?_, ?_⟩
    · rw [hclose]
      rfl
    · rw [hclose]
      exact congrArg (· + 1) hcount
    · rw [hclose, hup]
    · exact fun hu command => (exec_of_serving command (hd.serving hu)).2
    · exact fun hdown => exec_of_down hses rfl (hup ▸ hdown)
  · obtain ⟨⟨ses, hses, hclosed⟩, hcount⟩ := closed_after hopen hcalls
    refine ⟨by simp [d, Client.isOpen, hses, hclosed], hcount, close_of_closed hses hclosed, ?_⟩
    exact exec_of_closed hses hclosed

/-- The first command takes too long, two get no channel and one cannot be sent; the fifth is
answered, the sixth is given up while its channel is waited for, and the last costs the connection,
so that closing fails. Another connection is lost right behind the login. -/
theorem session_closes_once_disconnected :
    let t : Target :=
      { host := "router", username := "root", password := "a", policy := .acceptAny
        commandTimeout := some (.ofSeconds 1) }
    let s : Server :=
      { key := ⟨.ed25519 (List.replicate 32 1), ""⟩
        start := fun
          | 1 | 2 => .refused "Failed to open channel (AdministrativelyProhibited)"
          | 3 => .fails "Channel send error"
          | 5 => .hang
          | _ => .opens
        scripts := [[.hang], [.message (.status 3), .message .eof], [.disconnect]] }
    let lost : Server := { s with stands := fun _ => false }
    let opened (s : Server) : Client :=
      { files := {}, sent := [.login "root" "a"], session := some (t.opened s) }
    let calls : List Call :=
      [.exec "a" .never, .exec "b" .never, .exec "c" .never, .exec "d" .never]
    let d := after
      (calls ++ [.exec "e" .never, .exec "f" (.onStall []), .exec "g" .never]) (opened s)
    (∃ logs, (connect (fun _ _ => .server s) t { files := {} }).settle .never =
      .value ⟨.ok (), logs, opened s⟩) ∧
    (exec "e" (after calls (opened s))).answer? = some (.ok ⟨"e", "", "", 3⟩) ∧
    d.isOpen ∧ d.isUp = false ∧ d.disconnects = 0 ∧
    (close d).value = .error (.connection "Failed to disconnect: Channel send error") ∧
    (close d).state.isOpen = false ∧ (close d).state.disconnects = 1 ∧
    (after (calls ++ [.close, .exec "c" .never, .close]) (opened s)).disconnects = 1 ∧
    (close (opened lost)).value =
      .error (.connection "Failed to disconnect: Channel send error") ∧
    exec "a" (opened lost) = .done
      { value := .error (.channel "Failed to open channel: Channel send error")
        state := opened lost } := by
  intro t s lost opened calls d
  have connects (s' : Server) (hkey : s'.key = s.key) (hk : s'.keyExchange = .completes)
      (hl : s'.login = .accept) :
      ∃ logs, (connect (fun _ _ => .server s') t { files := {} }).settle .never =
        .value ⟨.ok (), logs, opened s'⟩ := by
    obtain ⟨key, keyExchange, login, start, scripts, stands⟩ := s'
    cases hkey
    cases hk
    cases hl
    exact ⟨_, rfl⟩
  obtain ⟨logs, hc⟩ := connects s rfl rfl rfl
  obtain ⟨logs', hc'⟩ := connects lost rfl rfl rfl
  obtain ⟨_, hs, hopen, -⟩ := session_closes_once _ t _ _ .never logs hc calls
  cases hs
  obtain ⟨-, -, -, -, -, hup, hanswer, -⟩ := hopen (by simp [calls])
  obtain ⟨_, hs, hopen, -⟩ := session_closes_once _ t _ _ .never logs hc
    (calls ++ [.exec "e" .never, .exec "f" (.onStall []), .exec "g" .never])
  cases hs
  obtain ⟨hd, hcount, hclosed, hcount', hvalue, hdown, -⟩ := hopen (by simp [calls])
  obtain ⟨_, -, -, hbehind⟩ := session_closes_once _ t _ _ .never logs hc
    (calls ++ [.close, .exec "c" .never, .close])
  obtain ⟨_, hs, hlost, -⟩ := session_closes_once _ t _ _ .never logs' hc' []
  cases hs
  obtain ⟨-, -, -, -, hlostValue, -, -, hlostExec⟩ := hlost (by simp)
  have hd' : d.isUp = false := by
    rw [Bool.eq_false_iff, ne_eq, hdown]
    exact fun h => absurd (h.2 6 (by decide)) (by decide)
  refine ⟨⟨logs, hc⟩, ?_, hd, hd', hcount, ?_, hclosed, hcount', (hbehind (by simp)).2.1,
    hlostValue, hlostExec rfl "a"⟩
  · rw [hanswer (hup.2 (by decide)) "e"]
    decide
  · rw [hvalue, hd']
    rfl

end Remote

end RemoteBatch
