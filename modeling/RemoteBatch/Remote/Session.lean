import RemoteBatch.Remote.Server
import RemoteBatch.Run.Connector

/-!
Sessions on a server. Connecting goes through stages, each of which can fail: the way to the
server, its host key, the rest of the handshake, the password. A session runs each command on a
channel of its own; after it is closed it runs none.
-/

namespace RemoteBatch.Remote

open Run

structure Session where
  address : String
  server : Server
  commandTimeout : Option Duration
  isOpen : Bool := true
  isUp : Bool := true
  /-- Channels asked for, and commands sent, since the connection was made. -/
  channels : Nat := 0
  commands : Nat := 0

structure Client where
  files : FileTree
  sent : List Request := []
  session : Option Session := none
  disconnects : Nat := 0

def Session.describe (s : Session) : String :=
  let limit := match s.commandTimeout with
    | some d => s!"Some({d.text})"
    | none => "None"
  s!"SshSession \x7b address: {Text.quote s.address}, open: {s.isOpen}, " ++
    s!"command_timeout: {limit} \x7d"

/-- The client behind a request to disconnect, whether or not that comes through. -/
def Client.hungUp (c : Client) : Client := { c with disconnects := c.disconnects + 1 }

def timedOut (what : String) (t : Target) (c : Client) : Reply Client (Except RunError Unit) :=
  let text := s!"{what} {t.address} timed out after {t.connectTimeout.text}"
  { value := .error (.connection text), logs := [Topic.connection.error text], state := c }

def handshakeFailed (reason : String) (c : Client) : Reply Client (Except RunError Unit) :=
  { value := .error (.connection reason)
    logs := [Topic.connection.error s!"SSH connection failed: {reason}"]
    state := c }

/-- A login that failed with the connection `lost` or not, behind which the client asks to
disconnect. -/
def abandoned (lost : Bool) (failed : Reply Client (Except RunError Unit)) :
    Reply Client (Except RunError Unit) :=
  { failed with
    logs := failed.logs ++
      if lost then
        [Topic.connection.debug "Disconnect after failed authentication: Channel send error"]
      else []
    state := failed.state.hungUp }

def loginRejected (t : Target) (c : Client) : Reply Client (Except RunError Unit) :=
  { value := .error (.authentication s!"Password authentication rejected for user '{t.username}'")
    logs := [Topic.connection.error s!"Password authentication rejected for '{t.username}'"]
    state := c }

/-- Without an entry of its own in the log. -/
def loginFailed (reason : String) (c : Client) : Reply Client (Except RunError Unit) :=
  { value := .error (.authentication reason), state := c }

def loginAccepted (t : Target) (s : Server) (c : Client) : Reply Client (Except RunError Unit) :=
  { value := .ok ()
    logs :=
      [Topic.connection.info "Password authentication successful",
        Topic.connection.info s!"Successfully connected to {t.username}@{t.address}"]
    state := { c with session := some ⟨t.address, s, t.commandTimeout, true, s.stands 0, 0, 0⟩ } }

def login (t : Target) (s : Server) (c : Client) : Outcome Client (Except RunError Unit) :=
  let asked := { c with sent := c.sent ++ [.login t.username t.password] }
  let lost := !s.stands 0
  match s.login with
  | .accept => .done (loginAccepted t s asked)
  | .reject => .done (abandoned lost (loginRejected t asked))
  | .check user password =>
    if t.username = user ∧ t.password = password then .done (loginAccepted t s asked)
    else .done (abandoned lost (loginRejected t asked))
  | .hang =>
    .stalls true [] asked (some (abandoned lost (timedOut "Authentication with" t asked)))
  | .disconnect => .done (abandoned true (loginRejected t asked))
  | .fails reason => .done (abandoned lost (loginFailed reason c))

def logged {σ α : Type} (logs : List LogEntry) : Outcome σ α → Outcome σ α
  | .done reply => .done { reply with logs := logs ++ reply.logs }
  | .stalls noticed later state late => .stalls noticed (logs ++ later) state late

def greet (t : Target) (s : Server) (c : Client) : Outcome Client (Except RunError Unit) :=
  let verdict := t.policy.verify c.files t.host t.port s.key
  let c := { c with files := verdict.files }
  logged verdict.logs <|
    if verdict.accepted then
      match s.keyExchange with
      | .fails reason => .done (handshakeFailed reason c)
      | .hang => .stalls true [] c (some (timedOut "Connection to" t c))
      | .completes =>
        logged
          [Topic.connection.debug s!"Attempting password authentication for user '{t.username}'"]
          (login t s c)
    else
      .done
        { value := .error (.hostKeyRejected t.address)
          logs := [Topic.connection.error s!"Host key for {t.address} rejected"]
          state := c }

def announcement (t : Target) : List LogEntry :=
  Topic.connection.info s!"Connecting to SSH server {t.address}..." ::
    if t.policy.isInsecure then
      [Topic.connection.warn (s!"Host key verification is disabled for {t.address}; " ++
        "the server identity is not checked")]
    else []

/-- A limit of zero has passed before anything can answer. -/
def inTime (t : Target) (c : Client) (o : Outcome Client (Except RunError Unit)) :
    Outcome Client (Except RunError Unit) :=
  if t.connectTimeout.millis = 0 then .done (timedOut "Connection to" t c) else o

def meet (t : Target) (c : Client) : Endpoint → Outcome Client (Except RunError Unit)
  | .unreachable reason => .done (handshakeFailed reason c)
  | .silent => inTime t c (.stalls true [] c (some (timedOut "Connection to" t c)))
  | .failing reason => inTime t c (.done (handshakeFailed reason c))
  | .server s => inTime t c (greet t s c)

def connect (net : Network) (t : Target) (c : Client) : Outcome Client (Except RunError Unit) :=
  logged (announcement t) (meet t { c with session := none } (net t.host t.port))

def completed (r : CommandResult) : LogEntry :=
  Topic.command.debug (s!"Command completed: exit_status={r.exitStatus}, " ++
    s!"stdout_len={r.stdout.utf8ByteSize}, stderr_len={r.stderr.utf8ByteSize}")

def signalLogs (g : Gathered) : List LogEntry :=
  g.signals.map fun name =>
    Topic.command.debug s!"Remote process terminated by signal {signalText name}"

def concluded (command : String) (g : Gathered) (c : Client) :
    Reply Client (Except RunError CommandResult) :=
  let value := g.result command
  let logs := match value with
    | .ok r => [completed r]
    | .error _ => []
  { value, logs := signalLogs g ++ logs, state := c }

def commandTimedOut (command : String) (limit : Duration) (c : Client) :
    Reply Client (Except RunError CommandResult) :=
  { value := .error (.timeout limit)
    logs := [Topic.command.warn s!"Command timed out after {limit.seconds}s: {command}"]
    state := c }

def dropsLater (rest : List ChannelEvent) : Bool :=
  (rest.takeWhile (· ≠ .hang)).contains .disconnect

def await (command : String) (s : Session) (script : List ChannelEvent) (c : Client) :
    Outcome Client (Except RunError CommandResult) :=
  let behind (kept : Bool) : Client := { c with session := some { s with isUp := kept && s.isUp } }
  match collect {} script with
  | .complete g rest => .done (concluded command g (behind !dropsLater rest))
  | .cut g => .done (concluded command g (behind false))
  | .stalled noticed g =>
    .stalls noticed (signalLogs g) (behind true)
      (s.commandTimeout.map fun limit => commandTimedOut command limit (behind true))

/-- Sends a command on a channel that was opened. A limit of zero has passed before anything can
come. -/
def send (command : String) (s : Session) (c : Client) :
    Outcome Client (Except RunError CommandResult) :=
  let script := s.server.scripts.getD s.commands []
  let s := { s with commands := s.commands + 1 }
  let c := { c with session := some s, sent := c.sent ++ [.command command] }
  match s.commandTimeout with
  | some ⟨0⟩ => .done (commandTimedOut command ⟨0⟩ c)
  | _ => await command s script c

def channelError (reason : String) (c : Client) :
    Outcome Client (Except RunError CommandResult) :=
  .done { value := .error (.channel reason), state := c }

/-- The time limit is one for what comes on the channel, not for opening it. -/
def exec (command : String) (c : Client) : Outcome Client (Except RunError CommandResult) :=
  match c.session with
  | none => channelError "SSH session already closed" c
  | some s =>
    if !s.isOpen then channelError "SSH session already closed" c
    else if !s.isUp then channelError "Failed to open channel: Channel send error" c
    else
      let asked :=
        { s with channels := s.channels + 1, isUp := s.server.stands (s.channels + 1) }
      let c' := { c with session := some asked }
      match s.server.start s.channels with
      | .opens => send command asked c
      | .refused reason => channelError s!"Failed to open channel: {reason}" c'
      | .hang => .stalls true [] c' none
      | .fails reason => channelError s!"Failed to exec command: {reason}" c'

theorem exec_cases (command : String) (c : Client) :
    (∃ s, exec command c = send command s c) ∨
      ∃ c', ((∃ reason, exec command c = channelError reason c') ∨
        exec command c = .stalls true [] c' none) ∧ c'.sent = c.sent := by
  simp only [exec]
  split
  · exact .inr ⟨_, .inl ⟨_, rfl⟩, rfl⟩
  · split
    · exact .inr ⟨_, .inl ⟨_, rfl⟩, rfl⟩
    · split
      · exact .inr ⟨_, .inl ⟨_, rfl⟩, rfl⟩
      · split
        · exact .inl ⟨_, rfl⟩
        · exact .inr ⟨_, .inl ⟨_, rfl⟩, rfl⟩
        · exact .inr ⟨_, .inr rfl, rfl⟩
        · exact .inr ⟨_, .inl ⟨_, rfl⟩, rfl⟩

def close (c : Client) : Reply Client (Except RunError Unit) :=
  match c.session with
  | none => { value := .ok (), state := c }
  | some s =>
    if !s.isOpen then { value := .ok (), state := c }
    else
      { value := if s.isUp then .ok ()
          else .error (.connection "Failed to disconnect: Channel send error")
        logs := [Topic.connection.info s!"SSH connection to {s.address} closed"]
        state := { c.hungUp with session := some { s with isOpen := false } } }

def connector (net : Network) (t : Target) : Connector Client where
  connect := connect net t
  exec := exec
  close := close

end RemoteBatch.Remote
