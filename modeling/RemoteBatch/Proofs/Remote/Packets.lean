import RemoteBatch.Proofs.Remote.Deadline
import RemoteBatch.Proofs.Text.Utf8

/-! Output in packets. The text of a stream is told from its bytes joined together: it does not
matter how they were cut, even inside a character, nor what came between on the other stream. -/

namespace RemoteBatch.Remote

open Run

/-- Messages that bring these chunks of the two streams, each in its order, however they
alternate. -/
inductive Carries : List Bytes → List Bytes → List Message → Prop
  | nil : Carries [] [] []
  | out {outs errs : List Bytes} {ms : List Message} (chunk : Bytes) (h : Carries outs errs ms) :
    Carries (chunk :: outs) errs (.data chunk :: ms)
  | err {outs errs : List Bytes} {ms : List Message} (chunk : Bytes) (h : Carries outs errs ms) :
    Carries outs (chunk :: errs) (.extended 1 chunk :: ms)

namespace Carries

variable {outs errs : List Bytes} {ms : List Message}

lemma outBytes_eq (h : Carries outs errs ms) : ms.flatMap Message.outBytes = outs.flatten := by
  induction h with
  | nil => rfl
  | out chunk _ ih => rw [List.flatMap_cons, List.flatten_cons, ih, Message.outBytes]
  | err chunk _ ih => rw [List.flatMap_cons, ih, Message.outBytes, if_pos rfl, List.nil_append]

lemma errBytes_eq (h : Carries outs errs ms) : ms.flatMap Message.errBytes = errs.flatten := by
  induction h with
  | nil => rfl
  | out chunk _ ih =>
    rw [List.flatMap_cons, ih]
    rfl
  | err chunk _ ih => rw [List.flatMap_cons, List.flatten_cons, ih, Message.errBytes, if_pos rfl]

lemma silent (h : Carries outs errs ms) {m : Message} (hm : m ∈ ms) :
    m ≠ .close ∧ m ≠ .eof ∧ m.status? = none := by
  induction h with
  | nil => cases hm
  | out chunk _ ih =>
    rcases List.mem_cons.1 hm with rfl | hm
    · simp [Message.status?]
    · exact ih hm
  | err chunk _ ih =>
    rcases List.mem_cons.1 hm with rfl | hm
    · simp [Message.status?]
    · exact ih hm

end Carries

def IsEnding (n : Nat) (ending : List Message) : Prop :=
  ending = [.eof, .status n] ∨ ending = [.status n, .eof]

lemma cut_of_carries {outs errs : List Bytes} {ms ending : List Message} {n : Nat}
    (h : Carries outs errs ms) (hending : IsEnding n ending) (rest : List Message) :
    cut (ms ++ ending ++ rest) = ms ++ ending ∧ endsReading (ms ++ ending) := by
  have hclose : .close ∉ ms := fun hm => (h.silent hm).1 rfl
  rcases hending with rfl | rfl
  · have hu : Unended (ms ++ [.eof]) := by
      refine unended_of_forall (by simp [hclose]) (.inr fun m hm => ?_)
      rcases List.mem_append.1 hm with hm | hm
      · exact (h.silent hm).2.2
      · obtain rfl := List.mem_singleton.1 hm
        rfl
    have hm : endsReading (ms ++ [.eof] ++ [.status n]) := by simp [endsReading, Message.status?]
    have hcut := cut_of_ends hu hm rest
    rw [List.append_assoc, List.append_assoc] at hcut
    rw [List.append_assoc] at hm ⊢
    exact ⟨hcut, hm⟩
  · have hu : Unended (ms ++ [.status n]) := by
      refine unended_of_forall (by simp [hclose]) (.inl ?_)
      rw [List.mem_append, List.mem_singleton, not_or]
      exact ⟨fun hm => (h.silent hm).2.1 rfl, by simp⟩
    have hm : endsReading (ms ++ [.status n] ++ [.eof]) := by simp [endsReading, Message.status?]
    have hcut := cut_of_ends hu hm rest
    rw [List.append_assoc, List.append_assoc] at hcut
    rw [List.append_assoc] at hm ⊢
    exact ⟨hcut, hm⟩

lemma collected_of_carries (command : String) {outs errs : List Bytes} {ms ending : List Message}
    {n : Nat} (h : Carries outs errs ms) (hending : IsEnding n ending) :
    collected command (ms ++ ending) =
      .ok ⟨command, Utf8.decodeLossy outs.flatten, Utf8.decodeLossy errs.flatten, n⟩ := by
  have hnone : ms.filterMap Message.status? = [] :=
    List.filterMap_eq_nil_iff.2 fun m hm => (h.silent hm).2.2
  have hstatus : lastStatus? (ms ++ ending) = some n := by
    rw [lastStatus?, List.filterMap_append, hnone, List.nil_append]
    rcases hending with rfl | rfl <;> rfl
  have hbytes : ending.flatMap Message.outBytes = [] ∧ ending.flatMap Message.errBytes = [] := by
    rcases hending with rfl | rfl <;> exact ⟨rfl, rfl⟩
  rw [collected, hstatus, List.flatMap_append, List.flatMap_append, h.outBytes_eq, h.errBytes_eq,
    hbytes.1, hbytes.2, List.append_nil, List.append_nil]

def Client.Brings (c : Client) (outs errs : List Bytes) (n : Nat) : Prop :=
  ∃ limit ms ending later, limit ≠ some ⟨0⟩ ∧ Carries outs errs ms ∧ IsEnding n ending ∧
    c.Plays limit ((ms ++ ending).map .message ++ later)

lemma Client.Brings.result? {c : Client} {outs errs : List Bytes} {n : Nat}
    (h : c.Brings outs errs n) (command : String) (shutdown : Shutdown) :
    ((exec command c).settle shutdown).result? = some (.ok
      ⟨command, Utf8.decodeLossy outs.flatten, Utf8.decodeLossy errs.flatten, n⟩) := by
  obtain ⟨limit, ms, ending, later, hlimit, hms, hending, hplays⟩ := h
  obtain ⟨hcut, hends⟩ := cut_of_carries hms hending (spoken later)
  rw [hplays.result? hlimit, finishes, spoken_messages, hcut, hends, Bool.true_or, if_pos rfl,
    collected_of_carries command hms hending]

lemma encode_decodeLossy_of_text {bs : Bytes} (h : ∃ text, Utf8.encode text = bs) :
    Utf8.encode (Utf8.decodeLossy bs) = bs := by
  obtain ⟨text, rfl⟩ := h
  rw [Utf8.decodeLossy_encode]

/-- A command whose output ends, with a status, has a result. If the bytes of a stream are a text in
UTF-8 then its output is that text, however they were cut into chunks, even inside a character, and
however the two streams alternated. What is not UTF-8 is repaired, and then too only the bytes of
the stream, joined together, count. -/
theorem exec_output_of_concatenation (command : String) (shutdown : Shutdown) (c : Client)
    (outs errs : List Bytes) (n : Nat) (h : c.Brings outs errs n) :
    ∃ r, ((exec command c).settle shutdown).result? = some (.ok r) ∧
      r.command = command ∧ r.exitStatus = n ∧
      ((∃ text, Utf8.encode text = outs.flatten) → Utf8.encode r.stdout = outs.flatten) ∧
      ((∃ text, Utf8.encode text = errs.flatten) → Utf8.encode r.stderr = errs.flatten) ∧
      r.stdout = Utf8.decodeLossy outs.flatten ∧ r.stderr = Utf8.decodeLossy errs.flatten ∧
      ∀ command' shutdown' c' outs' errs' n', c'.Brings outs' errs' n' →
        ∃ r', ((exec command' c').settle shutdown').result? = some (.ok r') ∧
          (outs'.flatten = outs.flatten → r'.stdout = r.stdout) ∧
          (errs'.flatten = errs.flatten → r'.stderr = r.stderr) := by
  refine ⟨_, h.result? command shutdown, rfl, rfl, encode_decodeLossy_of_text,
    encode_decodeLossy_of_text, rfl, rfl, ?_⟩
  intro command' shutdown' c' outs' errs' n' h'
  refine ⟨_, h'.result? command' shutdown', fun houts => ?_, fun herrs => ?_⟩
  · exact congrArg Utf8.decodeLossy houts
  · exact congrArg Utf8.decodeLossy herrs

theorem exec_output_of_concatenation_split :
    let t : Target :=
      { host := "router", username := "root", password := "a", policy := .acceptAny }
    let s : Server :=
      { key := ⟨.ed25519 (List.replicate 32 1), ""⟩
        scripts := [[.message (.data [0xC3]), .message (.extended 1 [0xE2, 0x82]),
          .message (.data []), .message (.data [0xA9]), .message (.extended 1 [0xAC]),
          .message (.status 3), .message .eof, .message (.data [98])]] }
    let s' : Server :=
      { s with
        scripts := [[.message (.data [0xC3, 0xA9]), .message .eof, .message (.status 0)]] }
    let c : Client := { files := {}, session := some (t.opened s) }
    let c' : Client := { files := {}, session := some (t.opened s') }
    ∃ r, ((exec "x" c).settle .never).result? = some (.ok r) ∧ r.exitStatus = 3 ∧
      Utf8.encode r.stdout = Utf8.encode "é" ∧ Utf8.encode r.stderr = Utf8.encode "€" ∧
      ∃ r', ((exec "x" c').settle .never).result? = some (.ok r') ∧ r'.stdout = r.stdout := by
  intro t s s' c c'
  have h : c.Brings [[0xC3], [], [0xA9]] [[0xE2, 0x82], [0xAC]] 3 :=
    ⟨none, _, _, [.message (.data [98])], by decide,
      .out _ (.err _ (.out _ (.out _ (.err _ .nil)))), .inr rfl,
      _, rfl, rfl, rfl, by decide, rfl, rfl⟩
  have h' : c'.Brings [[0xC3, 0xA9]] [] 0 :=
    ⟨none, _, _, [], by decide, .out _ .nil, .inl rfl, _, rfl, rfl, rfl, by decide, rfl, rfl⟩
  obtain ⟨r, hr, -, hstatus, hout, herr, -, -, hother⟩ :=
    exec_output_of_concatenation "x" .never c _ _ _ h
  obtain ⟨r', hr', hsame, -⟩ := hother "x" .never c' _ _ _ h'
  exact ⟨r, hr, hstatus, hout ⟨"é", by decide⟩, herr ⟨"€", by decide⟩, r', hr', hsame rfl⟩

end RemoteBatch.Remote
