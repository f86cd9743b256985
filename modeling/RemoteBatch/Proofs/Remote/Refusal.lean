import RemoteBatch.Proofs.HostKey.FirstUse
import RemoteBatch.Proofs.Run.Lifecycle
import RemoteBatch.Remote.Session

/-! Servers whose host key is refused. The key is judged before anything else of the server or of
the client's secret is looked at, and a refusal leaves the client as it was. -/

namespace RemoteBatch

namespace Remote

open Run HostKey HostKey.Policy

variable {net : Network} {t : Target} {s : Server} {c : Client}

/-- What connecting fails with if the host key is refused. A limit of zero has passed before a
server can present its key. -/
def refusal (t : Target) : RunError :=
  if t.connectTimeout.millis = 0 then
    .connection s!"Connection to {t.address} timed out after {t.connectTimeout.text}"
  else .hostKeyRejected t.address

def refusalLogs (t : Target) (verdict : List LogEntry) : List LogEntry :=
  announcement t ++
    if t.connectTimeout.millis = 0 then
      [Topic.connection.error
        s!"Connection to {t.address} timed out after {t.connectTimeout.text}"]
    else verdict ++ [Topic.connection.error s!"Host key for {t.address} rejected"]

lemma greet_of_refused (h : (t.policy.verify c.files t.host t.port s.key).accepted = false) :
    greet t s c = .done
      { value := .error (.hostKeyRejected t.address)
        logs := (t.policy.verify c.files t.host t.port s.key).logs ++
          [Topic.connection.error s!"Host key for {t.address} rejected"]
        state := c } := by
  simp only [greet, logged, h, files_of_refused h, Bool.false_eq_true, if_false]

lemma connect_of_refused (hs : net t.host t.port = .server s)
    (h : (t.policy.verify c.files t.host t.port s.key).accepted = false) :
    connect net t c = .done
      { value := .error (refusal t)
        logs := refusalLogs t (t.policy.verify c.files t.host t.port s.key).logs
        state := { c with session := none } } := by
  have hg := greet_of_refused (c := { c with session := none }) h
  by_cases h0 : t.connectTimeout.millis = 0
  · simp only [connect, hs, meet, inTime, h0, if_true, refusal, refusalLogs]
    rfl
  · simp only [connect, hs, meet, inTime, h0, if_false, hg, refusal, refusalLogs]
    rfl

/-- Neither the password, nor what the server would have done behind its key, nor the commands show
in a run that ends with the refusal of the key; the client is left without a session, its files as
they were and nothing sent. -/
theorem run_of_refused_key (net net' : Network) (t : Target) (password : String) (s s' : Server)
    (c c' : Client) (shutdown shutdown' : Shutdown) (sinks sinks' : Sinks)
    (commands commands' : List String) (hs : net t.host t.port = .server s)
    (hs' : net' t.host t.port = .server s') (hkey : s'.key = s.key) (hfiles : c'.files = c.files)
    (h : (t.policy.verify c.files t.host t.port s.key).accepted = false) :
    let e := run (connector net t) commands shutdown sinks c
    let e' := run (connector net' { t with password }) commands' shutdown' sinks' c'
    e.result = some (.error (refusal t)) ∧ e'.result = e.result ∧ e'.events = e.events ∧
      Event.Unopened e.events ∧ e.state = { c with session := none } ∧
      e'.state = { c' with session := none } := by
  intro e e'
  have hc : ((connector net t).connect c).settle shutdown = .value _ :=
    congrArg (Outcome.settle shutdown) (connect_of_refused hs h)
  have h' : (t.policy.verify c'.files t.host t.port s'.key).accepted = false := by
    rw [hfiles, hkey, h]
  have hc' : ((connector net' { t with password }).connect c').settle shutdown' = .value _ :=
    congrArg (Outcome.settle shutdown')
      (connect_of_refused (t := { t with password }) hs' h')
  have he : e = _ := run_of_refused _ shutdown hc
  have he' : e' = _ := run_of_refused _ shutdown' hc'
  have hevents : e'.events = e.events := by
    rw [he, he']
    simp only [hfiles, hkey]
    rfl
  exact ⟨by rw [he], by rw [he, he']; rfl, hevents, ⟨_, by rw [he]⟩, by rw [he], by rw [he']⟩

theorem run_of_refused_key_changed :
    let t : Target :=
      { host := "router", username := "root", password := "a",
        policy := .trustOnFirstUse (some (Utf8.encode "kh")) }
    let c : Client :=
      { files := exampleTree (KnownHosts.entryLine "router" (exampleKey 1)) }
    let s : Server := { key := exampleKey 2 }
    let s' : Server := { s with login := .check "root" "b", scripts := [[.message (.status 0)]] }
    let e := run (connector (fun _ _ => .server s) t) ["x"] .never {} c
    let e' := run (connector (fun _ _ => .server s') { t with password := "b" }) ["y", "z"]
      (.onStall []) {} c
    e.result = some (.error (.hostKeyRejected "router:22")) ∧ e'.result = e.result ∧
      e'.events = e.events ∧ e'.state.sent = [] ∧ e'.state.files = c.files := by
  intro t c s s' e e'
  obtain ⟨hr, hr', hevents, -, -, hstate⟩ := run_of_refused_key (fun _ _ => .server s)
    (fun _ _ => .server s') t "b" s s' c c .never (.onStall []) {} {} ["x"] ["y", "z"] rfl rfl rfl
    rfl (by decide +kernel)
  have hkey : refusal t = .hostKeyRejected "router:22" := by decide +kernel
  exact ⟨hr.trans (by rw [hkey]), hr', hevents, by rw [hstate], by rw [hstate]⟩

end Remote

end RemoteBatch
