import RemoteBatch.Proofs.Remote.Closing

/-! Replies to the request to start a command. A client asks for one and makes nothing of it: what
else comes on the channel decides, even if the server refused. -/

namespace RemoteBatch.Remote

open Run

def Message.isReply : Message → Bool
  | .success | .failure => true
  | _ => false

def RefusesRequest (script : List ChannelEvent) : Prop :=
  (spoken script).find? Message.isReply = some .failure

instance (script : List ChannelEvent) : Decidable (RefusesRequest script) :=
  inferInstanceAs (Decidable (_ = _))

def withoutReplies (script : List ChannelEvent) : List ChannelEvent :=
  script.filter fun
    | .message m => !m.isReply
    | _ => true

lemma withoutReplies_message (m : Message) (script : List ChannelEvent) :
    withoutReplies (.message m :: script) =
      if m.isReply then withoutReplies script else .message m :: withoutReplies script := by
  cases h : m.isReply <;> simp [withoutReplies, h]

lemma dropsLater_withoutReplies (script : List ChannelEvent) :
    dropsLater (withoutReplies script) = dropsLater script := by
  have hmessage (m : Message) (script : List ChannelEvent) :
      dropsLater (.message m :: script) = dropsLater script := dropsLater_messages [m] script
  induction script with
  | nil => rfl
  | cons e script ih =>
    cases e with
    | message m =>
      rw [withoutReplies_message, hmessage]
      split_ifs
      · exact ih
      · rw [hmessage, ih]
    | disconnect => rfl
    | hang => rfl

inductive Collected.Alike : Collected → Collected → Prop
  | complete (g : Gathered) {rest rest' : List ChannelEvent}
      (h : dropsLater rest = dropsLater rest') : Alike (.complete g rest) (.complete g rest')
  | refl (c : Collected) : Alike c c

lemma add_of_isReply {m : Message} (h : m.isReply) (g : Gathered) : g.add m = g ∧ m ≠ .close := by
  cases m <;> simp [Message.isReply] at h <;> exact ⟨rfl, by simp⟩

lemma collect_withoutReplies (script : List ChannelEvent) {g : Gathered}
    (h : g.isComplete = false) :
    (collect g (withoutReplies script)).Alike (collect g script) := by
  induction script generalizing g with
  | nil => exact .refl _
  | cons e script ih =>
    cases e with
    | disconnect => exact .refl _
    | hang => exact .refl _
    | message m =>
      rw [withoutReplies_message]
      by_cases hr : m.isReply
      · obtain ⟨hadd, hclose⟩ := add_of_isReply hr g
        rw [if_pos hr, collect, hadd]
        simpa [h, hclose] using ih h
      · rw [if_neg hr, collect, collect]
        cases hs : decide (m = .close) || (g.add m).isComplete with
        | true => exact .complete _ (dropsLater_withoutReplies script)
        | false => exact ih (Bool.or_eq_false_iff.1 hs).2

lemma await_withoutReplies (command : String) (ses : Session) (script : List ChannelEvent)
    (c : Client) : await command ses (withoutReplies script) c = await command ses script c := by
  have h : (collect {} (withoutReplies script)).Alike (collect {} script) :=
    collect_withoutReplies script rfl
  simp only [await]
  generalize collect {} (withoutReplies script) = first at h ⊢
  generalize collect {} script = second at h ⊢
  cases h with
  | complete g h => simp only [h]
  | refl => rfl

lemma channelAnswer?_withoutReplies (command : String) (ses : Session)
    (script : List ChannelEvent) (c : Client) :
    channelAnswer? ses.commandTimeout command (withoutReplies script) =
      channelAnswer? ses.commandTimeout command script := by
  by_cases h : ses.commandTimeout = some ⟨0⟩
  · simp [channelAnswer?, heard, drops, h]
  · have hanswer (script : List ChannelEvent) :
        channelAnswer? ses.commandTimeout command script =
          (await command ses script c).answer? := by
      rw [(await_of_script command ses script c).2]
      simp [channelAnswer?, heard, drops, h, finishes]
    rw [hanswer, hanswer, await_withoutReplies]

lemma collected_eq_channel_iff (command : String) (ms : List Message) :
    (∃ reason, collected command ms = .error (.channel reason)) ↔ ∀ m ∈ ms, m.status? = none := by
  rw [← lastStatus?_eq_none_iff, collected]
  cases lastStatus? ms <;> simp

lemma channelAnswer?_eq_channel_iff (limit : Option Duration) (command : String)
    (script : List ChannelEvent) :
    (∃ reason, channelAnswer? limit command script = some (.error (.channel reason))) ↔
      limit ≠ some ⟨0⟩ ∧ (endsReading (cut (spoken script)) ∨ dropsLater script) ∧
        ∀ m ∈ cut (spoken script), m.status? = none := by
  by_cases h : limit = some ⟨0⟩
  · have hcut : endsReading (cut []) = false := by decide
    simp [channelAnswer?, heard, drops, h, hcut]
  · have hd : drops limit script = dropsLater script := by simp [drops, h]
    rw [channelAnswer?, heard, if_neg h, hd, ← Bool.or_eq_true, and_iff_right h]
    split_ifs with he
    · rw [and_iff_right he, ← collected_eq_channel_iff command]
      simp
    · rw [iff_false_right fun hand => he hand.1]
      cases limit <;> simp

/-- The replies to the request make no difference to what a command is answered. If the server
refuses to start it, that too is a channel error only if the channel or the connection ends and no
status has come by then; other messages give a result, and silence is waited for. -/
theorem exec_ignores_replies {t : Target} {s : Server} {n : Nat} {c : Client}
    {script : List ChannelEvent} (command : String) (h : Serving t s n c)
    (hscript : s.script? n = some script) :
    let rest := withoutReplies script
    (exec command c).answer? = channelAnswer? t.commandTimeout command rest ∧
      ((∃ reason, (exec command c).answer? = some (.error (.channel reason))) ↔
        t.commandTimeout ≠ some ⟨0⟩ ∧ (endsReading (cut (spoken rest)) ∨ dropsLater rest) ∧
          ∀ m ∈ cut (spoken rest), m.status? = none) := by
  intro rest
  have hanswer : (exec command c).answer? = channelAnswer? t.commandTimeout command rest := by
    rw [(exec_of_serving command h).2, Server.answer?_of_script hscript]
    exact (channelAnswer?_withoutReplies command
      ⟨t.address, s, t.commandTimeout, true, true, n, s.playedBefore n⟩ script c).symm
  exact ⟨hanswer, by rw [hanswer, channelAnswer?_eq_channel_iff]⟩

def refusingTarget : Target :=
  { host := "router", username := "root", password := "a", policy := .acceptAny }

/-- The server refuses every command; the first prints and exits all the same, the second is never
heard of again, and the channel of the third is closed. -/
def refusingServer : Server :=
  { key := ⟨.ed25519 (List.replicate 32 1), ""⟩
    scripts :=
      [[.message .failure, .message (.data [120]), .message (.status 0), .message .eof],
        [.message .failure], [.message .failure, .message .close]] }

def refusedClient (n : Nat) : Client :=
  { files := {}
    session := some ⟨refusingTarget.address, refusingServer, none, true, true, n, n⟩ }

lemma serving_refusedClient (n : Nat) :
    Serving refusingTarget refusingServer n (refusedClient n) := by
  have hn : refusingServer.playedBefore n = n := by simp [Server.playedBefore, refusingServer]
  rw [Serving, hn]
  rfl

theorem exec_ignores_replies_refused :
    (∀ script ∈ refusingServer.scripts, RefusesRequest script) ∧
      (exec "a" (refusedClient 0)).answer? = some (.ok ⟨"a", "x", "", 0⟩) ∧
      (exec "b" (refusedClient 1)).answer? = none ∧
      ∃ reason, (exec "c" (refusedClient 2)).answer? = some (.error (.channel reason)) := by
  obtain ⟨ha, -⟩ := exec_ignores_replies "a" (serving_refusedClient 0) rfl
  obtain ⟨hb, -⟩ := exec_ignores_replies "b" (serving_refusedClient 1) rfl
  obtain ⟨-, hc⟩ := exec_ignores_replies "c" (serving_refusedClient 2) rfl
  refine ⟨by decide, ha.trans ?_, hb.trans ?_, hc.2 ?_⟩
  · decide
  · decide
  · decide

/-- A command that the server refused to start is answered with its result, or waited for. -/
theorem not_exec_of_refused :
    ¬∀ (t : Target) (s : Server) (n : Nat) (c : Client) (command : String)
      (script : List ChannelEvent), Serving t s n c → s.script? n = some script →
      RefusesRequest script →
      ∃ reason, (exec command c).answer? = some (.error (.channel reason)) := by
  intro h
  obtain ⟨reason, hr⟩ := h _ _ 0 _ "a" _ (serving_refusedClient 0) rfl (by decide)
  have hok : (exec "a" (refusedClient 0)).answer? = some (.ok ⟨"a", "x", "", 0⟩) := by
    rw [(exec_of_serving "a" (serving_refusedClient 0)).2]
    decide
  rw [hok] at hr
  cases hr

end RemoteBatch.Remote
