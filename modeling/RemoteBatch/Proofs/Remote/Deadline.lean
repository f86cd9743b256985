import RemoteBatch.Proofs.Remote.Closing
import RemoteBatch.Proofs.Run.Unanswered

/-! The time limit for commands. A command whose channel comes to its cut, or ends, before it stalls
is answered as without a limit. One that stalls ahead of that has no result, whatever has come: the
run gives up on it and shows nothing of it. -/

namespace RemoteBatch.Remote

open Run

lemma exists_spoken_append (early late : List ChannelEvent) :
    ∃ more, spoken (early ++ late) = spoken early ++ more := by
  induction early with
  | nil => exact ⟨spoken late, rfl⟩
  | cons e early ih =>
    obtain ⟨more, ih⟩ := ih
    cases e with
    | message m => exact ⟨more, congrArg (m :: ·) ih⟩
    | disconnect => exact ⟨[], rfl⟩
    | hang => exact ⟨[], rfl⟩

lemma append_of_dropsLater {early : List ChannelEvent} (h : dropsLater early)
    (late : List ChannelEvent) :
    spoken (early ++ late) = spoken early ∧ dropsLater (early ++ late) := by
  induction early with
  | nil => cases h
  | cons e early ih =>
    cases e with
    | message m =>
      have hm (script : List ChannelEvent) :
          dropsLater (.message m :: script) = dropsLater script := dropsLater_messages [m] script
      rw [hm] at h
      obtain ⟨hs, hd⟩ := ih h
      exact ⟨congrArg (m :: ·) hs, (hm _).trans hd⟩
    | disconnect => exact ⟨rfl, rfl⟩
    | hang => cases h

lemma cut_append {ms : List Message} (h : endsReading (cut ms)) (more : List Message) :
    cut (ms ++ more) = cut ms := by
  rcases cut_cases ms with ⟨hu, hc⟩ | ⟨first, m, rest, rfl, hu, hm, hc⟩
  · rw [hc, hu ms List.prefix_rfl] at h
    cases h
  · rw [hc, List.append_assoc, List.cons_append, cut_of_ends hu hm]

lemma finishes_append {early : List ChannelEvent} (h : finishes early) (late : List ChannelEvent) :
    finishes (early ++ late) ∧ cut (spoken (early ++ late)) = cut (spoken early) := by
  rcases Bool.or_eq_true_iff.1 h with hcut | hdrop
  · obtain ⟨more, hmore⟩ := exists_spoken_append early late
    have hsame : cut (spoken (early ++ late)) = cut (spoken early) := by
      rw [hmore, cut_append hcut]
    exact ⟨by rw [finishes, hsame, hcut, Bool.true_or], hsame⟩
  · obtain ⟨hs, hd⟩ := append_of_dropsLater hdrop late
    exact ⟨by rw [finishes, hd, Bool.or_true], by rw [hs]⟩

def Client.Plays (c : Client) (limit : Option Duration) (script : List ChannelEvent) : Prop :=
  ∃ ses, c.session = some ses ∧ ses.isOpen ∧ ses.isUp ∧
    ses.server.start ses.channels = .opens ∧ ses.commandTimeout = limit ∧
    ses.server.scripts.getD ses.commands [] = script

def givenUp (limit : Option Duration) (shutdown : Shutdown) (script : List ChannelEvent) :
    Option RunError :=
  match shutdown with
  | .never => limit.map .timeout
  | .onStall _ => if script.contains .hang then some .interrupted else limit.map .timeout

lemma result?_await (command : String) (ses : Session) (script : List ChannelEvent) (c : Client)
    (shutdown : Shutdown) :
    ((await command ses script c).settle shutdown).result? =
      if finishes script then some (collected command (cut (spoken script)))
      else (givenUp ses.commandTimeout shutdown script).map .error := by
  rcases await_cases command ses script c with ⟨h, ha⟩ | ⟨h, ha⟩
  · rw [ha, h]
    rfl
  · rw [ha, h]
    cases shutdown with
    | never => cases ses.commandTimeout <;> rfl
    | onStall notice =>
      rw [givenUp]
      cases script.contains .hang <;> cases ses.commandTimeout <;> rfl

lemma Client.Plays.result? {c : Client} {limit : Option Duration} {script : List ChannelEvent}
    (h : c.Plays limit script) (h0 : limit ≠ some ⟨0⟩) (command : String) (shutdown : Shutdown) :
    ((exec command c).settle shutdown).result? =
      if finishes script then some (collected command (cut (spoken script)))
      else (givenUp limit shutdown script).map .error := by
  obtain ⟨ses, hc, hopen, hup, hchannel, rfl, rfl⟩ := h
  have he : exec command c = send command { ses with
      channels := ses.channels + 1, isUp := ses.server.stands (ses.channels + 1) } c := by
    simp [exec, hc, hopen, hup, hchannel]
  rw [he, send_eq]
  dsimp only
  rw [if_neg h0, result?_await]

/-- The server plays a script for a command, counted from 0: it opens a channel for it, and none
ahead of it has cost the connection. -/
structure Server.PlaysAt (s : Server) (limit : Option Duration) (i : Nat)
    (script : List ChannelEvent) : Prop where
  script_eq : s.script? i = some script
  stands : s.StandsTo limit i

lemma Serving.plays {t : Target} {s : Server} {n : Nat} {c : Client} (h : Serving t s n c)
    {script : List ChannelEvent} (hs : s.script? n = some script) :
    c.Plays t.commandTimeout script := by
  rw [Server.script?] at hs
  split_ifs at hs with ho
  exact ⟨_, h, rfl, rfl, ho, rfl, Option.some.inj hs⟩

lemma Closed.isOpen_eq_false {c : Client} (h : Closed c) : c.isOpen = false := by
  obtain ⟨ses, hc, hclosed⟩ := h
  simp [Client.isOpen, hc, hclosed]

lemma behind_eq_after (net : Network) (t : Target) (shutdown : Shutdown) (commands : List String)
    (c : Client) : (connector net t).behind shutdown commands c =
      after (commands.map (.exec · shutdown)) c := by
  rw [Connector.behind, after, List.foldl_map]
  rfl

lemma open_of_connect {net : Network} {t : Target} {s : Server} {c opened : Client}
    {shutdown : Shutdown} {logs : List LogEntry} (hs : net t.host t.port = .server s)
    (h : (connect net t c).settle shutdown = .value ⟨.ok (), logs, opened⟩) :
    Open t s 0 opened := by
  obtain ⟨s', hs', hopened⟩ := session_of_connect h
  obtain rfl : s = s' := by simpa [hs] using hs'
  exact open_of_opened hopened

lemma open_behind (net : Network) {t : Target} {s : Server} {opened : Client}
    (h : Open t s 0 opened) (shutdown : Shutdown) (commands : List String) :
    Open t s commands.length ((connector net t).behind shutdown commands opened) ∧
      ((connector net t).behind shutdown commands opened).disconnects = opened.disconnects := by
  have hcalls : .close ∉ commands.map (Call.exec · shutdown) := by simp
  have ho := open_after h hcalls
  rw [List.length_map] at ho
  rwa [behind_eq_after]

/-- A command whose channel comes to its cut or its end before it stalls, in the part of it that is
early enough for the limit, is answered as it is without a limit. One that stalls ahead of that is
given up, whatever has come: at the limit, or without a limit only at a shutdown. A run shows
nothing of it and sends no command behind it, ends with the error and closes the session once. -/
theorem commandTimeout_transparent (limit : Option Duration) (hlimit : limit ≠ some ⟨0⟩) :
    (∀ command early late c c', c.Plays limit early → c'.Plays none (early ++ late) →
      finishes early → ∀ shutdown,
        ((exec command c).settle shutdown).result? =
          some (collected command (cut (spoken early))) ∧
        ((exec command c').settle shutdown).result? =
          some (collected command (cut (spoken early)))) ∧
    (∀ command script c, c.Plays limit script → finishes script = false → ∀ shutdown,
      ((exec command c).settle shutdown).result? =
        (givenUp limit shutdown script).map .error) ∧
    ∀ net t s c opened logs shutdown sinks commands i command script,
      t.commandTimeout = limit → net t.host t.port = .server s → s.PlaysAt limit i script →
      finishes script = false →
      (connect net t c).settle shutdown = .value ⟨.ok (), logs, opened⟩ →
      let e := run (connector net t) commands shutdown sinks c
      let ending := givenUp limit shutdown script
      (Event.commands e.events)[i]? = some command →
      e.result = ending.map .error ∧
      Event.commands e.events = commands.take (i + 1) ∧
      (∃ results : List CommandResult, results.length = i ∧ Event.visible e.events =
        .connect :: transcript commands (results.map .ok) ++
          .exec command :: if ending.isSome then [.close] else []) ∧
      (ending.isSome →
        e.state.isOpen = false ∧ e.state.disconnects = opened.disconnects + 1) := by
  refine ⟨?_, ?_, ?_⟩
  · intro command early late c c' hc hc' hfinishes shutdown
    obtain ⟨hlater, hcut⟩ := finishes_append hfinishes late
    rw [hc.result? hlimit, hc'.result? (by simp), hfinishes, hlater, hcut]
    exact ⟨rfl, rfl⟩
  · intro command script c hc hstalls shutdown
    rw [hc.result? hlimit, hstalls]
    rfl
  · intro net t s c opened logs shutdown sinks commands i command script ht hs hplays hstalls hc e
      ending hi
    subst ht
    have hopen := open_of_connect hs hc
    have hlt : i < commands.length :=
      (List.getElem?_eq_some_iff.1 (getElem?_of_executed (k := connector net t) hc hi)).1
    obtain ⟨ho, -⟩ := open_behind net hopen shutdown (commands.take i)
    rw [List.length_take_of_le hlt.le] at ho
    have hresult := ((ho.serving (ho.up_iff.2 hplays.stands)).plays hplays.script_eq).result?
      hlimit command shutdown
    rw [hstalls, if_neg Bool.false_ne_true] at hresult
    obtain ⟨hr, hcommands, hshown, hstate⟩ := run_endsAt (k := connector net t) hc hi hresult
    refine ⟨hr, hcommands, hshown, fun hending => ?_⟩
    obtain ⟨hlast, hcount⟩ := open_behind net hopen shutdown (commands.take (i + 1))
    obtain ⟨hclosed, hcount'⟩ := hlast.close
    rw [hstate, if_pos hending]
    exact ⟨hclosed.isOpen_eq_false, hcount'.trans (congrArg (· + 1) hcount)⟩

theorem commandTimeout_transparent_stalled :
    let limit : Duration := .ofSeconds 1
    let t : Target :=
      { host := "router", username := "root", password := "a", policy := .acceptAny
        commandTimeout := some limit }
    let early : List ChannelEvent := [.message .eof, .message (.status 0)]
    let s : Server :=
      { key := ⟨.ed25519 (List.replicate 32 1), ""⟩
        scripts :=
          [early, [.message (.data [97]), .message (.status 0), .hang, .message .eof]] }
    let net : Network := fun _ _ => .server s
    let c : Client := { files := {} }
    let c' : Client := { c with session := some (Target.opened t s) }
    let forever : Server := { s with scripts := [early ++ [.hang]] }
    let d : Client := { c with session := some ({ t with commandTimeout := none }.opened forever) }
    let behind : Client :=
      { c with session := some { Target.opened t s with channels := 1, commands := 1 } }
    let e := run (connector net t) ["a", "b", "c"] .never {} c
    let f := run (connector net { t with commandTimeout := none }) ["a", "b", "c"] (.onStall [])
      {} c
    ((exec "a" c').settle .never).result? = some (.ok ⟨"a", "", "", 0⟩) ∧
    ((exec "a" d).settle .never).result? = some (.ok ⟨"a", "", "", 0⟩) ∧
    ((exec "b" behind).settle .never).result? = some (.error (.timeout limit)) ∧
    e.result = some (.error (.timeout limit)) ∧ Event.commands e.events = ["a", "b"] ∧
    e.state.isOpen = false ∧ e.state.disconnects = 1 ∧
    f.result = some (.error .interrupted) ∧ Event.commands f.events = ["a", "b"] := by
  intro limit t early s net c c' forever d behind e f
  obtain ⟨hsame, hstalls, hrun⟩ := commandTimeout_transparent (some limit) (by decide)
  obtain ⟨-, -, hrun'⟩ := commandTimeout_transparent none (by decide)
  have hc' : c'.Plays (some limit) early := ⟨_, rfl, rfl, rfl, rfl, rfl, rfl⟩
  have hd : d.Plays none (early ++ [.hang]) := ⟨_, rfl, rfl, rfl, rfl, rfl, rfl⟩
  obtain ⟨ha, hb⟩ := hsame "a" early [.hang] c' d hc' hd (by decide) .never
  have hbehind := hstalls "b" _ behind ⟨_, rfl, rfl, rfl, rfl, rfl, rfl⟩ (by decide) .never
  have hplays (l : Option Duration) (hstands : s.StandsTo l 1) :
      s.PlaysAt l 1 [.message (.data [97]), .message (.status 0), .hang, .message .eof] :=
    ⟨rfl, hstands⟩
  obtain ⟨he, hcommands, -, hclosed⟩ := hrun net t s c _ _ .never {} ["a", "b", "c"] 1 "b" _ rfl rfl
    (hplays _ (by decide)) (by decide) rfl (by decide +kernel)
  obtain ⟨hf, hcommands', -⟩ := hrun' net { t with commandTimeout := none } s c _ _ (.onStall []) {}
    ["a", "b", "c"] 1 "b" _ rfl rfl (hplays _ (by decide)) (by decide) rfl (by decide +kernel)
  obtain ⟨hopen, hcount⟩ := hclosed rfl
  exact ⟨ha.trans (by decide), hb.trans (by decide), hbehind, he, hcommands, hopen, hcount, hf,
    hcommands'⟩

end RemoteBatch.Remote
