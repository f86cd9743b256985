import Mathlib.Data.List.Infix
import RemoteBatch.Remote.Session

/-! What is gathered from the channel of a command. Reading ends with the shortest prefix of the
messages that closes the channel, or that has both the end of the output and a status. The result
is told from the messages of that prefix, stream by stream, and from nothing else. -/

namespace RemoteBatch.Remote

open Run

namespace Message

def outBytes : Message → Bytes
  | .data bs => bs
  | .extended code bs => if code = 1 then [] else bs
  | _ => []

def errBytes : Message → Bytes
  | .extended code bs => if code = 1 then bs else []
  | _ => []

def status? : Message → Option Nat
  | .status n => some n
  | .signal _ => some 255
  | _ => none

def signal? : Message → Option String
  | .signal name => some name
  | _ => none

end Message

def lastStatus? (ms : List Message) : Option Nat := (ms.filterMap Message.status?).getLast?

def endsReading (ms : List Message) : Bool :=
  ms.getLast? = some .close || (ms.contains .eof && ms.any fun m => m.status?.isSome)

/-- The shortest prefix that ends reading; all messages if there is none. -/
def cut (ms : List Message) : List Message := (ms.inits.find? endsReading).getD ms

example : cut [.status 1, .data [97], .eof, .data [98], .status 2, .close] =
    [.status 1, .data [97], .eof] := by decide

def collected (command : String) (ms : List Message) : Except RunError CommandResult :=
  match lastStatus? ms with
  | none => .error (.channel "Channel closed without an exit status")
  | some n =>
    .ok ⟨command, Utf8.decodeLossy (ms.flatMap Message.outBytes),
      Utf8.decodeLossy (ms.flatMap Message.errBytes), n⟩

lemma lastStatus?_eq_none_iff {ms : List Message} :
    lastStatus? ms = none ↔ ∀ m ∈ ms, m.status? = none := by
  simp [lastStatus?]

lemma isSome_lastStatus? (ms : List Message) :
    (lastStatus? ms).isSome = ms.any fun m => m.status?.isSome := by
  rw [Bool.eq_iff_iff, Option.isSome_iff_ne_none, ne_eq, lastStatus?_eq_none_iff]
  simp [Option.isSome_iff_ne_none]

def Gathered.of (ms : List Message) : Gathered where
  stdout := ms.flatMap Message.outBytes
  stderr := ms.flatMap Message.errBytes
  status := lastStatus? ms
  atEof := ms.contains .eof
  signals := ms.filterMap Message.signal?

lemma Gathered.add_of (seen : List Message) (m : Message) :
    (Gathered.of seen).add m = Gathered.of (seen ++ [m]) := by
  cases m with
  | extended code bs =>
    by_cases h : code = 1 <;>
      simp [Gathered.add, Gathered.of, lastStatus?, Message.outBytes, Message.errBytes,
        Message.status?, Message.signal?, h]
  | _ =>
    simp [Gathered.add, Gathered.of, lastStatus?, Message.outBytes, Message.errBytes,
      Message.status?, Message.signal?, signalStatus]

lemma endsReading_concat (seen : List Message) (m : Message) :
    endsReading (seen ++ [m]) = (m = .close || (Gathered.of (seen ++ [m])).isComplete) := by
  have hl : (seen ++ [m]).getLast? = some m := List.getLast?_concat
  rw [endsReading, hl, Gathered.isComplete]
  simp [Gathered.of, isSome_lastStatus?]

def Unended (ms : List Message) : Prop := ∀ p, p <+: ms → endsReading p = false

lemma Unended.nil : Unended [] := by
  intro p hp
  rw [List.prefix_nil.1 hp]
  rfl

lemma Unended.concat {seen : List Message} {m : Message} (h : Unended seen)
    (hm : endsReading (seen ++ [m]) = false) : Unended (seen ++ [m]) := by
  intro p hp
  rcases List.prefix_concat_iff.1 hp with rfl | hp
  · exact hm
  · exact h p hp

lemma unended_of_forall {ms : List Message} (hclose : .close ∉ ms)
    (h : .eof ∉ ms ∨ ∀ m ∈ ms, m.status? = none) : Unended ms := by
  intro p hp
  have hlast : p.getLast? ≠ some .close := fun hl => hclose (hp.subset (List.mem_of_getLast? hl))
  rw [endsReading, decide_eq_false hlast, Bool.false_or, Bool.and_eq_false_iff]
  rcases h with heof | hstatus
  · left
    rw [List.contains_eq_mem, decide_eq_false_iff_not]
    exact fun hm => heof (hp.subset hm)
  · right
    rw [List.any_eq_false]
    intro m hm
    simp [hstatus m (hp.subset hm)]

lemma unended_or_ends (ms : List Message) {seen : List Message} (h : Unended seen) :
    Unended (seen ++ ms) ∨ ∃ first m rest, seen ++ ms = first ++ m :: rest ∧ Unended first ∧
      endsReading (first ++ [m]) := by
  induction ms generalizing seen with
  | nil => exact .inl (by simpa using h)
  | cons m rest ih =>
    cases hm : endsReading (seen ++ [m]) with
    | true => exact .inr ⟨seen, m, rest, rfl, h, hm⟩
    | false => simpa using ih (h.concat hm)

lemma find?_inits_of_unended {ms : List Message} (h : Unended ms) :
    ms.inits.find? endsReading = none := by
  rw [List.find?_eq_none]
  intro p hp
  simp [h p ((List.mem_inits _ _).1 hp)]

lemma cut_of_unended {ms : List Message} (h : Unended ms) : cut ms = ms := by
  rw [cut, find?_inits_of_unended h, Option.getD_none]

lemma cut_of_ends {seen : List Message} {m : Message} (h : Unended seen)
    (hm : endsReading (seen ++ [m])) (rest : List Message) :
    cut (seen ++ m :: rest) = seen ++ [m] := by
  have hi : (seen ++ m :: rest).inits.find? endsReading = some (seen ++ [m]) := by
    rw [List.inits_append, List.find?_append, find?_inits_of_unended h]
    cases rest with
    | nil => simp [hm]
    | cons m' rest => simp [hm]
  rw [cut, hi, Option.getD_some]

lemma cut_cases (ms : List Message) :
    (Unended ms ∧ cut ms = ms) ∨ ∃ first m rest, ms = first ++ m :: rest ∧ Unended first ∧
      endsReading (first ++ [m]) ∧ cut ms = first ++ [m] := by
  rcases unended_or_ends ms Unended.nil with h | ⟨first, m, rest, he, h, hm⟩
  · exact .inl ⟨h, cut_of_unended h⟩
  · rw [List.nil_append] at he
    exact .inr ⟨first, m, rest, he, h, hm, he ▸ cut_of_ends h hm rest⟩

lemma cut_of_not_endsReading {ms : List Message} (h : endsReading (cut ms) = false) :
    cut ms = ms := by
  rcases cut_cases ms with ⟨-, hc⟩ | ⟨first, m, rest, -, -, hm, hc⟩
  · exact hc
  · rw [hc, hm] at h
    cases h

lemma cut_cut (ms : List Message) : cut (cut ms) = cut ms := by
  rcases cut_cases ms with ⟨-, hc⟩ | ⟨first, m, rest, -, h, hm, hc⟩
  · rw [hc, hc]
  · rw [hc, cut_of_ends h hm []]

lemma collect_message (seen : List Message) (m : Message) (later : List ChannelEvent) :
    collect (.of seen) (.message m :: later) =
      if endsReading (seen ++ [m]) then .complete (.of (seen ++ [m])) later
      else collect (.of (seen ++ [m])) later := by
  simp only [collect, Gathered.add_of, endsReading_concat]

lemma collect_of_unended (seen : List Message) {ms : List Message} (h : Unended (seen ++ ms))
    (later : List ChannelEvent) :
    collect (.of seen) (ms.map .message ++ later) = collect (.of (seen ++ ms)) later := by
  induction ms generalizing seen with
  | nil => simp
  | cons m rest ih =>
    have hm : endsReading (seen ++ [m]) = false := h _ ⟨rest, by simp⟩
    have hr := ih (seen ++ [m]) (by simpa using h)
    rw [List.map_cons, List.cons_append, collect_message, hm, if_neg Bool.false_ne_true, hr,
      List.append_assoc, List.singleton_append]

lemma collect_eq (ms : List Message) (later : List ChannelEvent) :
    collect {} (ms.map .message ++ later) =
      if endsReading (cut ms) then
        .complete (.of (cut ms)) ((ms.drop (cut ms).length).map .message ++ later)
      else collect (.of ms) later := by
  change collect (.of []) _ = _
  rcases cut_cases ms with ⟨h, hc⟩ | ⟨first, m, rest, he, h, hm, hc⟩
  · have hn : endsReading (cut ms) = false := by
      rw [hc]
      exact h ms List.prefix_rfl
    rw [collect_of_unended [] h, hn, if_neg Bool.false_ne_true, List.nil_append]
  · rw [hc, hm, if_pos rfl, he, List.map_append, List.append_assoc,
      collect_of_unended [] h, List.map_cons, List.cons_append, collect_message]
    simp [hm]

variable (command : String) (s : Session) (c : Client)

lemma await_of_complete {script rest : List ChannelEvent} {ms : List Message}
    (h : collect {} script = .complete (.of ms) rest) :
    await command s script c = .done (concluded command (.of ms)
      { c with session := some { s with isUp := !dropsLater rest && s.isUp } }) := by
  simp only [await, h]

lemma await_of_cut {script : List ChannelEvent} {ms : List Message}
    (h : collect {} script = .cut (.of ms)) :
    await command s script c = .done (concluded command (.of ms)
      { c with session := some { s with isUp := false } }) := by
  simp only [await, h, Bool.false_and]

/-- A channel that ends gives the result that is told from the cut of its messages; it is an error
if the cut has no status, and what comes behind the cut is of no consequence. -/
theorem await_collects (ms : List Message) (later : List ChannelEvent) :
    ∃ reply, await command s (ms.map .message ++ .disconnect :: later) c = .done reply ∧
      reply.value = collected command (cut ms) ∧
      (reply.value = .error (.channel "Channel closed without an exit status") ↔
        ∀ m ∈ cut ms, m.status? = none) ∧
      (endsReading (cut ms) → ∀ after, ∃ reply',
        await command s ((cut ms).map .message ++ after) c = .done reply' ∧
          reply'.value = reply.value ∧ reply'.logs = reply.logs) := by
  have hnone : collected command (cut ms) =
      .error (.channel "Channel closed without an exit status") ↔
        ∀ m ∈ cut ms, m.status? = none := by
    rw [← lastStatus?_eq_none_iff, collected]
    cases lastStatus? (cut ms) <;> simp
  have hc := collect_eq ms (.disconnect :: later)
  cases he : endsReading (cut ms) with
  | true =>
    rw [he, if_pos rfl] at hc
    refine ⟨_, await_of_complete command s c hc, rfl, hnone, fun _ after => ?_⟩
    have ha := collect_eq (cut ms) after
    rw [cut_cut, he, if_pos rfl] at ha
    exact ⟨_, await_of_complete command s c ha, rfl, rfl⟩
  | false =>
    rw [he, if_neg Bool.false_ne_true] at hc
    have hm := cut_of_not_endsReading he
    rw [hm] at hnone ⊢
    refine ⟨_, await_of_cut command s c hc, rfl, hnone, fun h => ?_⟩
    cases h

end RemoteBatch.Remote
