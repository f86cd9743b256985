import RemoteBatch.Proofs.Remote.Refusal
import RemoteBatch.Proofs.Remote.Verdict

/-! The stages of connecting. Whether a stage fails, and with what, is told from its own part of
what is met; the first that fails decides what connecting comes to, and nothing is done for those
behind it. -/

namespace RemoteBatch

namespace Run

variable {σ α : Type}

def Outcome.end? (o : Outcome σ α) : Option (α × σ) :=
  match o.settle .never with
  | .value reply => some (reply.value, reply.state)
  | .interrupted _ _ | .never _ _ => none

@[simp] lemma end?_stalls (noticed : Bool) (logs : List LogEntry) (state : σ)
    (late : Option (Reply σ α)) :
    (Outcome.stalls noticed logs state late).end? =
      late.map fun reply => (reply.value, reply.state) := by
  cases late <;> rfl

lemma settle_of_end? {o : Outcome σ α} {value : α} {state : σ}
    (h : o.end? = some (value, state)) :
    ∃ logs, o.settle .never = .value ⟨value, logs, state⟩ := by
  cases o with
  | done reply =>
    cases h
    exact ⟨_, rfl⟩
  | stalls noticed logs waiting late =>
    cases late with
    | none => cases h
    | some reply =>
      cases h
      exact ⟨_, rfl⟩

end Run

namespace Remote

open Run HostKey

@[simp] lemma end?_logged {σ α : Type} (logs : List LogEntry) (o : Outcome σ α) :
    (logged logs o).end? = o.end? := by
  cases o with
  | done reply => rfl
  | stalls noticed later state late => rw [logged, end?_stalls, end?_stalls]

namespace Endpoint

def server? : Endpoint → Option Server
  | .server s => some s
  | .unreachable _ | .silent | .failing _ => none

def fault? : Endpoint → Option String
  | .unreachable reason | .failing reason => some reason
  | .silent | .server _ => none

/-- Whether nothing is heard within the limit. That no way leads there is known before any. -/
def isLate (limit : Duration) : Endpoint → Bool
  | .unreachable _ => false
  | .silent => true
  | .failing _ | .server _ => limit.millis = 0

end Endpoint

def refusesCredentials : Login → Bool
  | .reject | .disconnect => true
  | .accept | .check _ _ | .hang | .fails _ => false

inductive Stage
  | answer
  | handshake
  | hostKey
  | keyExchange
  | request
  | authentication
  | credentials
  deriving DecidableEq

namespace Stage

def all : List Stage :=
  [.answer, .handshake, .hostKey, .keyExchange, .request, .authentication, .credentials]

def overdue (what : String) (t : Target) : RunError :=
  .connection s!"{what} {t.address} timed out after {t.connectTimeout.text}"

/-- What a stage fails with, if it does. It does not matter whether connecting comes to it. -/
def failure? (t : Target) (files : FileTree) (e : Endpoint) : Stage → Option RunError
  | .answer => if e.isLate t.connectTimeout then some (overdue "Connection to" t) else none
  | .handshake => e.fault?.map .connection
  | .hostKey => e.server?.bind fun s =>
    if (t.policy.verify files t.host t.port s.key).accepted then none
    else some (.hostKeyRejected t.address)
  | .keyExchange => e.server?.bind fun s =>
    match s.keyExchange with
    | .completes => none
    | .fails reason => some (.connection reason)
    | .hang => some (overdue "Connection to" t)
  | .request => e.server?.bind fun s =>
    match s.login with
    | .fails reason => some (.authentication reason)
    | _ => none
  | .authentication => e.server?.bind fun s =>
    if s.login = .hang then some (overdue "Authentication with" t) else none
  | .credentials => e.server?.bind fun s =>
    if refusesCredentials (s.verdict t.username t.password) then
      some (.authentication s!"Password authentication rejected for user '{t.username}'")
    else none

def reached (failure? : Stage → Option RunError) (stage : Stage) : Bool :=
  (all.takeWhile (· ≠ stage)).all fun earlier => (failure? earlier).isNone

variable (failure? : Stage → Option RunError)

lemma findSome?_cons_or {α β : Type} (f : α → Option β) (a : α) (rest : List α) :
    (a :: rest).findSome? f = (f a).or (rest.findSome? f) := by
  cases h : f a <;> simp [h]

lemma findSome?_all : all.findSome? failure? =
    ((failure? .answer).or (failure? .handshake)).or
      (((failure? .hostKey).or (failure? .keyExchange)).or
        ((failure? .request).or ((failure? .authentication).or (failure? .credentials)))) := by
  simp only [all, findSome?_cons_or, List.findSome?_nil, Option.or_none, Option.or_assoc]

lemma reached_hostKey : reached failure? .hostKey =
    ((failure? .answer).or (failure? .handshake)).isNone := by
  change ((failure? .answer).isNone && ((failure? .handshake).isNone && true)) = _
  simp

lemma reached_request : reached failure? .request =
    (reached failure? .hostKey && ((failure? .hostKey).or (failure? .keyExchange)).isNone) := by
  rw [reached_hostKey]
  change ((failure? .answer).isNone && ((failure? .handshake).isNone &&
    ((failure? .hostKey).isNone && ((failure? .keyExchange).isNone && true)))) = _
  simp [Bool.and_assoc]

lemma reached_authentication : reached failure? .authentication =
    (reached failure? .request && (failure? .request).isNone) := by
  rw [reached_request, reached_hostKey]
  change ((failure? .answer).isNone && ((failure? .handshake).isNone &&
    ((failure? .hostKey).isNone && ((failure? .keyExchange).isNone &&
      ((failure? .request).isNone && true))))) = _
  simp [Bool.and_assoc]

end Stage

def Client.verified (t : Target) (s : Server) (c : Client) : Client :=
  { c with files := (t.policy.verify c.files t.host t.port s.key).files }

def Client.asking (t : Target) (c : Client) : Client :=
  { c with sent := c.sent ++ [.login t.username t.password] }

lemma login_cases (t : Target) (files : FileTree) (s : Server) (c : Client) :
    let failure? := Stage.failure? t files (.server s)
    (∃ cause, failure? .request = some cause ∧
      (login t s c).end? = some (.error cause, c.hungUp)) ∨
    (failure? .request = none ∧
      ((∃ cause, (failure? .authentication).or (failure? .credentials) = some cause ∧
        (login t s c).end? = some (.error cause, (c.asking t).hungUp)) ∨
      ((failure? .authentication).or (failure? .credentials) = none ∧
        (login t s c).end? =
          some (.ok (), { c.asking t with session := some (t.opened s) })))) := by
  obtain ⟨key, keyExchange, answer, start, scripts, stands⟩ := s
  cases answer with
  | accept => exact .inr ⟨rfl, .inr ⟨rfl, rfl⟩⟩
  | check user password =>
    by_cases h : t.username = user ∧ t.password = password
    · simp only [Stage.failure?, Endpoint.server?, Option.bind_some, login, Server.verdict,
        if_pos h]
      exact .inr ⟨trivial, .inr ⟨rfl, rfl⟩⟩
    · simp only [Stage.failure?, Endpoint.server?, Option.bind_some, login, Server.verdict,
        if_neg h]
      exact .inr ⟨trivial, .inl ⟨_, rfl, rfl⟩⟩
  | reject | hang | disconnect => exact .inr ⟨rfl, .inl ⟨_, rfl, rfl⟩⟩
  | fails reason => exact .inl ⟨_, rfl, rfl⟩

lemma greet_cases (t : Target) (s : Server) (c : Client) :
    let failure? := Stage.failure? t c.files (.server s)
    (∃ cause, (failure? .hostKey).or (failure? .keyExchange) = some cause ∧
      (greet t s c).end? = some (.error cause, c.verified t s)) ∨
    ((failure? .hostKey).or (failure? .keyExchange) = none ∧
      (greet t s c).end? = (login t s (c.verified t s)).end?) := by
  simp only [Stage.failure?, Endpoint.server?, Option.bind_some, greet, end?_logged]
  split
  · cases s.keyExchange with
    | completes => exact .inr ⟨rfl, end?_logged _ _⟩
    | fails reason => exact .inl ⟨_, rfl, rfl⟩
    | hang => exact .inl ⟨_, rfl, rfl⟩
  · exact .inl ⟨_, rfl, rfl⟩

lemma end?_inTime (t : Target) (c : Client) (o : Outcome Client (Except RunError Unit)) :
    (inTime t c o).end? = if t.connectTimeout.millis = 0 then
      some (.error (Stage.overdue "Connection to" t), c) else o.end? := by
  rw [inTime]
  split <;> rfl

lemma meet_cases (t : Target) (e : Endpoint) (c : Client) :
    let failure? := Stage.failure? t c.files e
    (∃ cause, (failure? .answer).or (failure? .handshake) = some cause ∧
      (meet t c e).end? = some (.error cause, c)) ∨
    ((failure? .answer).or (failure? .handshake) = none ∧
      ∃ s, e = .server s ∧ (meet t c e).end? = (greet t s c).end?) := by
  by_cases h : t.connectTimeout.millis = 0
  · cases e with
    | unreachable reason => exact .inl ⟨_, rfl, rfl⟩
    | silent | failing reason | server s =>
      simp only [Stage.failure?, Endpoint.isLate, meet, end?_inTime, h]
      exact .inl ⟨_, rfl, rfl⟩
  · cases e with
    | unreachable reason => exact .inl ⟨_, rfl, rfl⟩
    | silent | failing reason =>
      simp only [Stage.failure?, Endpoint.isLate, meet, end?_inTime, h]
      exact .inl ⟨_, rfl, rfl⟩
    | server s =>
      simp only [Stage.failure?, Endpoint.isLate, meet, end?_inTime, h]
      exact .inr ⟨rfl, s, rfl, rfl⟩

/-- Connecting, when it is not interrupted, comes to what the first failing stage fails with, and to
an open session with the time limit for commands if none fails. Files are changed as one verdict on
the host key changes them, just when a key is presented, whatever comes behind it. Credentials are
sent once, just when the key is accepted, the handshake completed and the request for it goes out;
an error from there on is returned after a disconnect, whether or not that comes through. -/
theorem connect_decided (net : Network) (t : Target) (c : Client) :
    let e := net t.host t.port
    let failure? := Stage.failure? t c.files e
    let first? := Stage.all.findSome? failure?
    ∃ logs c', (connect net t c).settle .never =
        .value ⟨first?.elim (.ok ()) .error, logs, c'⟩ ∧
      (first? = none → ∃ s, e = .server s ∧ c'.session = some (t.opened s)) ∧
      (first?.isSome → c'.session = none) ∧
      (Stage.reached failure? .hostKey → ∃ s, e = .server s ∧
        c'.files = (t.policy.verify c.files t.host t.port s.key).files) ∧
      (Stage.reached failure? .hostKey = false → c'.files = c.files) ∧
      c'.sent = c.sent ++
        (if Stage.reached failure? .authentication then [.login t.username t.password] else []) ∧
      c'.disconnects = c.disconnects +
        if Stage.reached failure? .request && first?.isSome then 1 else 0 := by
  intro e failure? first?
  let met : Client := { c with session := none }
  have hmet : (connect net t c).end? = (meet t met e).end? := end?_logged _ _
  have hfirst : first? = _ := Stage.findSome?_all failure?
  rw [Stage.reached_authentication, Stage.reached_request, Stage.reached_hostKey, hfirst]
  obtain ⟨cause, hway, hend⟩ | ⟨hway, s, hs, hgreet⟩ := meet_cases t e met
  · obtain ⟨logs, hl⟩ := settle_of_end? (hmet.trans hend)
    rw [show (failure? .answer).or (failure? .handshake) = some cause from hway]
    exact ⟨logs, _, hl, by simp [met]⟩
  rw [show (failure? .answer).or (failure? .handshake) = none from hway]
  have hserver : failure? = Stage.failure? t met.files (.server s) :=
    congrArg (Stage.failure? t c.files) hs
  obtain ⟨cause, hkey, hend⟩ | ⟨hkey, hlogin⟩ := greet_cases t s met <;>
    rw [← hserver] at hkey <;> rw [hkey]
  · obtain ⟨logs, hl⟩ := settle_of_end? (hmet.trans (hgreet.trans hend))
    exact ⟨logs, _, hl, by simp [hs, met, Client.verified]⟩
  have hgreeted := hmet.trans (hgreet.trans hlogin)
  obtain ⟨cause, hrequest, hend⟩ | ⟨hrequest, ⟨cause, hanswer, hend⟩ | ⟨hanswer, hend⟩⟩ :=
    login_cases t met.files s (met.verified t s) <;>
    rw [← hserver] at hrequest <;> rw [hrequest]
  · obtain ⟨logs, hl⟩ := settle_of_end? (hgreeted.trans hend)
    exact ⟨logs, _, hl, by simp [hs, met, Client.verified, Client.hungUp]⟩
  · rw [← hserver] at hanswer
    obtain ⟨logs, hl⟩ := settle_of_end? (hgreeted.trans hend)
    rw [hanswer]
    exact ⟨logs, _, hl, by simp [hs, met, Client.verified, Client.asking, Client.hungUp]⟩
  · rw [← hserver] at hanswer
    obtain ⟨logs, hl⟩ := settle_of_end? (hgreeted.trans hend)
    rw [hanswer]
    exact ⟨logs, _, hl, by simp [hs, met, Client.verified, Client.asking]⟩

end Remote

end RemoteBatch
