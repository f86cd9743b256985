import RemoteBatch.Proofs.Run.Interruption

/-! Runs whose output fails. Byte by byte such a run shows what the same run shows through sinks
that take everything, up to the byte that a sink refuses or the flush that fails; there it ends with
the sink's fault, and closes its session. -/

namespace RemoteBatch.Run

/-! ### Traces byte by byte -/

inductive Mark
  | connect
  | exec (command : String)
  | byte (stream : Stream) (b : UInt8)
  | flush (stream : Stream)
  | close
  deriving DecidableEq, Repr

namespace Mark

def ofEvent : Event → List Mark
  | .log _ => []
  | .connect => [connect]
  | .exec command => [exec command]
  | .output (.write stream bs) => bs.map (byte stream)
  | .output (.flush stream) => [flush stream]
  | .close => [close]

def ofEvents (es : List Event) : List Mark := es.flatMap ofEvent

def byte? (stream : Stream) : Mark → Option UInt8
  | byte s b => if s = stream then some b else none
  | _ => none

def bytes (stream : Stream) (ms : List Mark) : Bytes := ms.filterMap (byte? stream)

@[simp] lemma ofEvents_nil : ofEvents [] = [] := rfl

@[simp] lemma ofEvents_cons (e : Event) (es : List Event) :
    ofEvents (e :: es) = ofEvent e ++ ofEvents es := rfl

@[simp] lemma ofEvents_append (es fs : List Event) :
    ofEvents (es ++ fs) = ofEvents es ++ ofEvents fs := by
  simp [ofEvents]

@[simp] lemma ofEvents_logEvents (logs : List LogEntry) : ofEvents (logEvents logs) = [] := by
  simp [ofEvents, logEvents, ofEvent]

lemma ofEvents_merge (es : List Event) : ofEvents (Event.merge es) = ofEvents es := by
  fun_induction Event.merge es with
  | case1 => rfl
  | case2 s t ih => simpa [ofEvent] using ih
  | case3 s bs t hne bs' rest hm ih =>
    rw [hm] at ih
    simpa [ofEvent] using ih
  | case4 s bs t hne s' bs' rest hm hs ih =>
    rw [hm] at ih
    simpa using ih
  | case5 s bs t hne hm ih => simpa using ih
  | case6 e t _ _ ih => simpa using ih

lemma ofEvents_trace (es : List Event) : ofEvents (Event.trace es) = ofEvents es := by
  rw [Event.trace, ofEvents_merge]
  induction es with
  | nil => rfl
  | cons e es ih => cases e <;> simp [Event.logEntry?, ofEvent, ← ih]

@[simp] lemma bytes_nil (stream : Stream) : bytes stream [] = [] := rfl

@[simp] lemma bytes_append (stream : Stream) (ms ns : List Mark) :
    bytes stream (ms ++ ns) = bytes stream ms ++ bytes stream ns := by
  simp [bytes]

lemma bytes_cons (stream : Stream) (m : Mark) (ms : List Mark) :
    bytes stream (m :: ms) = (byte? stream m).toList ++ bytes stream ms := by
  cases h : byte? stream m <;> simp [bytes, h]

lemma bytes_map_byte (stream s : Stream) (bs : Bytes) :
    bytes stream (bs.map (byte s)) = if s = stream then bs else [] := by
  split_ifs with h <;> simp [bytes, List.filterMap_map, Function.comp_def, byte?, h]

lemma bytes_ofEvents (stream : Stream) (es : List Event) :
    bytes stream (ofEvents es) = Event.written stream es := by
  induction es with
  | nil => rfl
  | cons e es ih =>
    have he : bytes stream (ofEvent e) = Event.written stream [e] := by
      rcases e with _ | _ | _ | (⟨s, bs⟩ | _) | _
      case output.write => rw [ofEvent, bytes_map_byte, Event.written, List.flatMap_singleton]
      all_goals rfl
    rw [← List.singleton_append, Event.written_append, ← ih, ← he, ← bytes_append]
    rfl

end Mark

/-! ### What sinks let through -/

lemma Sink.write_cons (s : Sink) (b : UInt8) (bs : Bytes) :
    s.write (b :: bs) =
      match s.write [b] with
      | (left, next, some fault) => (left, next, some fault)
      | (left, next, none) =>
        let (more, last, fault) := next.write bs
        (left ++ more, last, fault) := by
  cases s with
  | limited room fault =>
    cases room with
    | zero => simp [write]
    | succ room => by_cases h : bs.length ≤ room <;> simp [write, h]
  | _ => rfl

lemma Sink.write_nil (s : Sink) : s.write [] = ([], s, none) := by
  cases s <;> simp [write]

structure Passage where
  marks : List Mark
  sinks : Sinks
  fault : Option SinkFault

namespace Sinks

def passOne (s : Sinks) : Mark → Passage
  | .byte stream b =>
    let (left, sink, fault) := (s.get stream).write [b]
    ⟨left.map (.byte stream), s.set stream sink, fault⟩
  | .flush stream => ⟨[.flush stream], s, (s.get stream).flushFault?⟩
  | m => ⟨[m], s, none⟩

def pass (s : Sinks) : List Mark → Passage
  | [] => ⟨[], s, none⟩
  | m :: ms =>
    let first := s.passOne m
    match first.fault with
    | some _ => first
    | none =>
      let later := first.sinks.pass ms
      ⟨first.marks ++ later.marks, later.sinks, later.fault⟩

lemma pass_append (s : Sinks) (ms ns : List Mark) :
    s.pass (ms ++ ns) =
      match (s.pass ms).fault with
      | some _ => s.pass ms
      | none =>
        let later := (s.pass ms).sinks.pass ns
        ⟨(s.pass ms).marks ++ later.marks, later.sinks, later.fault⟩ := by
  induction ms generalizing s with
  | nil => rfl
  | cons m ms ih =>
    cases h : (s.passOne m).fault with
    | some fault => simp [pass, h]
    | none =>
      simp only [List.cons_append, pass, h, ih]
      cases hr : ((s.passOne m).sinks.pass ms).fault <;> simp [hr]

lemma set_set (s : Sinks) (stream : Stream) (sink sink' : Sink) :
    (s.set stream sink).set stream sink' = s.set stream sink' := by
  cases stream <;> rfl

lemma pass_write (s : Sinks) (stream : Stream) (bs : Bytes) :
    s.pass (bs.map (.byte stream)) =
      let (left, sink, fault) := (s.get stream).write bs
      ⟨left.map (.byte stream), s.set stream sink, fault⟩ := by
  induction bs generalizing s with
  | nil => simp [pass, Sink.write_nil]
  | cons b bs ih =>
    rw [Sink.write_cons, List.map_cons, pass]
    rcases hb : (s.get stream).write [b] with ⟨left, sink, _ | fault⟩
    · simp only [passOne, hb, ih, get_set_self, set_set, List.map_append]
    · simp only [passOne, hb]

lemma pass_output (s : Sinks) (o : Output) :
    s.pass (Mark.ofEvent (.output o)) =
      let p := s.perform o
      ⟨Mark.ofEvents (outputEvents p.outputs), p.sinks, p.fault⟩ := by
  cases o with
  | write stream bs => simpa [outputEvents, Mark.ofEvent, perform] using pass_write s stream bs
  | flush stream =>
    cases h : (s.get stream).flushFault? <;>
      simp [outputEvents, Mark.ofEvent, perform, pass, passOne, h]

lemma pass_outputs (s : Sinks) (os : List Output) :
    s.pass (Mark.ofEvents (outputEvents os)) =
      let p := s.performAll os
      ⟨Mark.ofEvents (outputEvents p.outputs), p.sinks, p.fault⟩ := by
  induction os generalizing s with
  | nil => rfl
  | cons o os ih =>
    have ho : Mark.ofEvents (outputEvents (o :: os)) =
        Mark.ofEvent (.output o) ++ Mark.ofEvents (outputEvents os) := rfl
    rw [ho, pass_append, pass_output, performAll]
    cases h : (s.perform o).fault with
    | some fault => simp [h]
    | none =>
      have hos (first later : List Output) : outputEvents (first ++ later) =
          outputEvents first ++ outputEvents later := List.map_append
      simp only [ih, hos, h, Mark.ofEvents_append]

end Sinks

/-! ### Runs through sinks -/

section Runs

variable {σ : Type} (k : Connector σ) (shutdown : Shutdown)

def orFault {α : Type} (fail : RunError → α) (fault : Option SinkFault) (otherwise : α) : α :=
  match fault with
  | some fault => fail (.io fault.message)
  | none => otherwise

structure Step.Through (given : Sinks) (s₀ s : Step σ) : Prop where
  endless : s₀.sinks = {}
  marks : Mark.ofEvents s.events = (given.pass (Mark.ofEvents s₀.events)).marks
  sinks : s.sinks = (given.pass (Mark.ofEvents s₀.events)).sinks
  state : s.state = s₀.state
  next : s.next = orFault .fail (given.pass (Mark.ofEvents s₀.events)).fault s₀.next

lemma conclude_through (index total : Nat) (command : String) (r : CommandResult) (sinks : Sinks)
    (state : σ) :
    (conclude index total command r {} state).Through sinks
      (conclude index total command r sinks state) := by
  simp only [conclude]
  generalize r.printed ++ (if r.success then [] else failureNotice command r.exitStatus) = outputs
  have hpass := sinks.pass_outputs outputs
  cases hf : (sinks.performAll outputs).fault <;> cases hr : r.success <;> constructor <;>
    simp [hpass, hf, orFault]

lemma map_orFault (f : Report → Report) (fault : Option SinkFault)
    (result : Option (Except RunError Report)) :
    (orFault (some ∘ .error) fault result).map (·.map f) =
      orFault (some ∘ .error) fault (result.map (·.map f)) := by
  cases fault <;> rfl

@[simp] lemma ofEvents_announced (index total : Nat) (command : String) :
    Mark.ofEvents (announced index total command) = [.exec command] := rfl

lemma Step.through_unwritten (index total : Nat) (command : String) (logs : List LogEntry)
    (sinks : Sinks) (state : σ) (next : Next) :
    Step.Through sinks ⟨announced index total command ++ logEvents logs, {}, state, next⟩
      ⟨announced index total command ++ logEvents logs, sinks, state, next⟩ := by
  constructor <;> simp [Sinks.pass, Sinks.passOne, orFault]

lemma step_through (index total : Nat) (command : String) (sinks : Sinks) (state : σ) :
    (step k shutdown index total command {} state).Through sinks
      (step k shutdown index total command sinks state) := by
  cases h : (k.exec command state).settle shutdown with
  | never logs s =>
    rw [step_of_never k shutdown h, step_of_never k shutdown h]
    exact Step.through_unwritten index total command logs sinks s .never
  | interrupted logs s =>
    rw [step_of_interrupted k shutdown h, step_of_interrupted k shutdown h]
    exact Step.through_unwritten index total command _ sinks s (.fail .interrupted)
  | value reply =>
    obtain ⟨cause | r, logs, s⟩ := reply
    · rw [step_of_error k shutdown h, step_of_error k shutdown h]
      exact Step.through_unwritten index total command logs sinks s (.fail cause)
    · rw [step_of_result k shutdown h, step_of_result k shutdown h]
      have hc := conclude_through index total command r sinks s
      constructor <;>
        simp [Sinks.pass, Sinks.passOne, hc.endless, hc.marks, hc.sinks, hc.next]

lemma executeFrom_through (total index : Nat) (commands : List String) (sinks : Sinks)
    (state : σ) :
    let e₀ := executeFrom k shutdown total index commands {} state
    let e := executeFrom k shutdown total index commands sinks state
    let passed := sinks.pass (Mark.ofEvents e₀.events)
    Mark.ofEvents e.events = passed.marks ∧
      e.result = orFault (some ∘ .error) passed.fault e₀.result := by
  induction commands generalizing index sinks state with
  | nil => exact ⟨rfl, rfl⟩
  | cons command rest ih =>
    have hs := step_through k shutdown index total command sinks state
    rw [executeFrom_cons, executeFrom_cons]
    revert hs
    generalize step k shutdown index total command {} state = s₀
    generalize step k shutdown index total command sinks state = s
    intro hs
    dsimp only
    cases hf : (sinks.pass (Mark.ofEvents s₀.events)).fault with
    -- A fault ends the run here, whatever it would have gone on to.
    | some fault =>
      have hn : s.next = .fail (.io fault.message) := by rw [hs.next, hf, orFault]
      cases s₀.next <;> simp [hn, Sinks.pass_append, hf, hs.marks, orFault]
    | none =>
      have hn : s.next = s₀.next := by rw [hs.next, hf, orFault]
      simp only [hn]
      cases s₀.next with
      | goOn r =>
        obtain ⟨hm, hr⟩ := ih (index + 1) s.sinks s.state
        simp only [hs.endless, ← hs.state, Mark.ofEvents_append, Sinks.pass_append, hf, hm, hr,
          hs.marks, ← hs.sinks, map_orFault]
        trivial
      | _ => simp [hf, hs.marks, orFault]

end Runs

/-! ### The longest prefix that sinks can bear -/

namespace Sink

def room? : Sink → Option Nat
  | limited room _ => some room
  | _ => none

def writeFault? : Sink → Option SinkFault
  | limited _ fault => some fault
  | _ => none

lemma room?_write {s : Sink} {bs : Bytes} (h : (s.write bs).2.2 = none) :
    s.room? = (s.write bs).2.1.room?.map (· + bs.length) := by
  cases s with
  | limited room fault =>
    by_cases hroom : bs.length ≤ room
    · simp [write, hroom, room?]
    · simp [write, hroom] at h
  | _ => rfl

lemma flushFault?_write (s : Sink) (bs : Bytes) :
    (s.write bs).2.1.flushFault? = s.flushFault? := by
  unfold write
  split
  · split <;> rfl
  · rfl

lemma writeFault?_write (s : Sink) (bs : Bytes) :
    (s.write bs).2.1.writeFault? = s.writeFault? := by
  unfold write
  split
  · split <;> rfl
  · rfl

lemma fault_write_singleton (s : Sink) (b : UInt8) {fault : SinkFault}
    (h : (s.write [b]).2.2 = some fault) :
    s.room? = some 0 ∧ s.writeFault? = some fault ∧ (s.write [b]).1 = [] := by
  cases s with
  | limited room fault' =>
    cases room with
    | zero => simpa [write, room?, writeFault?] using h
    | succ room => simp [write] at h
  | _ => cases h

end Sink

namespace Sinks

structure Bears (s : Sinks) (ms : List Mark) : Prop where
  room : ∀ stream, ∀ room ∈ (s.get stream).room?, (Mark.bytes stream ms).length ≤ room
  flush : ∀ stream, .flush stream ∈ ms.dropLast → (s.get stream).flushFault? = none

/-- The longest prefix of a trace that the sinks can bear. -/
structure Cuts (s : Sinks) (full shown : List Mark) : Prop where
  isPrefix : shown <+: full
  bears : s.Bears shown
  longest : ∀ ms, ms <+: full → s.Bears ms → ms <+: shown

def failedFlush? (s : Sinks) (shown : List Mark) : Option SinkFault :=
  match shown.getLast? with
  | some (.flush stream) => (s.get stream).flushFault?
  | _ => none

def refusedByte? (s : Sinks) (full shown : List Mark) : Option SinkFault :=
  match full[shown.length]? with
  | some (.byte stream _) => (s.get stream).writeFault?
  | _ => none

def breach? (s : Sinks) (full shown : List Mark) : Option SinkFault :=
  (s.failedFlush? shown).or (s.refusedByte? full shown)

lemma bears_nil (s : Sinks) : s.Bears [] := by
  constructor <;> simp [Mark.bytes]

section PassOne

variable {s : Sinks} {m : Mark} (h : (s.passOne m).fault = none)

lemma get_passOne {α : Type} {f : Sink → α} (hf : ∀ s bs, f (Sink.write s bs).2.1 = f s)
    (s : Sinks) (m : Mark) (stream : Stream) :
    f ((s.passOne m).sinks.get stream) = f (s.get stream) := by
  cases m with
  | byte s' b =>
    rcases eq_or_ne stream s' with rfl | hne
    · simp [passOne, hf]
    · simp [passOne, get_set_of_ne _ _ hne]
  | _ => rfl

include h

lemma room?_passOne (stream : Stream) : (s.get stream).room? =
    ((s.passOne m).sinks.get stream).room?.map (· + (Mark.byte? stream m).toList.length) := by
  cases m with
  | byte s' b =>
    rcases eq_or_ne stream s' with rfl | hne
    · simpa [passOne, Mark.byte?] using Sink.room?_write h
    · simp [passOne, get_set_of_ne _ _ hne, Mark.byte?, hne.symm]
  | _ => simp [passOne, Mark.byte?]

lemma marks_passOne : (s.passOne m).marks = [m] := by
  cases m with
  | byte stream b =>
    exact congrArg (List.map (Mark.byte stream)) (Sink.write_of_faultless h)
  | _ => rfl

lemma bears_cons (ms : List Mark) : s.Bears (m :: ms) ↔ (s.passOne m).sinks.Bears ms := by
  constructor
  · refine fun hb => ⟨fun stream room hr => ?_, fun stream hmem => ?_⟩
    · have hroom := hb.room stream (room + (Mark.byte? stream m).toList.length)
        (by rw [room?_passOne h, hr]; rfl)
      rw [Mark.bytes_cons, List.length_append] at hroom
      omega
    · rw [get_passOne Sink.flushFault?_write]
      apply hb.flush
      rw [List.dropLast_cons_of_ne_nil (by rintro rfl; cases hmem)]
      exact List.mem_cons_of_mem m hmem
  · refine fun hb => ⟨fun stream room hr => ?_, fun stream hmem => ?_⟩
    · rw [room?_passOne h] at hr
      obtain ⟨left, hleft, rfl⟩ := Option.map_eq_some_iff.1 hr
      have hroom := hb.room stream left hleft
      rw [Mark.bytes_cons, List.length_append]
      omega
    · rcases eq_or_ne ms [] with rfl | hne
      · cases hmem
      rw [List.dropLast_cons_of_ne_nil hne, List.mem_cons] at hmem
      rcases hmem with rfl | hmem
      · exact h
      · rw [← get_passOne Sink.flushFault?_write s m]
        exact hb.flush stream hmem

lemma breach?_cons (ms shown : List Mark) :
    s.breach? (m :: ms) (m :: shown) = (s.passOne m).sinks.breach? ms shown := by
  have hflush : s.failedFlush? (m :: shown) = (s.passOne m).sinks.failedFlush? shown := by
    cases shown with
    | nil => cases m <;> first | rfl | exact h
    | cons m' shown =>
      simp only [failedFlush?, List.getLast?_cons_cons]
      split
      · rw [get_passOne Sink.flushFault?_write]
      · rfl
  have hbyte : s.refusedByte? (m :: ms) (m :: shown) =
      (s.passOne m).sinks.refusedByte? ms shown := by
    simp only [refusedByte?, List.length_cons, List.getElem?_cons_succ]
    split
    · rw [get_passOne Sink.writeFault?_write]
    · rfl
  rw [breach?, hflush, hbyte, breach?]

end PassOne

lemma Cuts.cons {s : Sinks} {m : Mark} {ms shown : List Mark} (hm : (s.passOne m).fault = none)
    (h : (s.passOne m).sinks.Cuts ms shown) : s.Cuts (m :: ms) (m :: shown) where
  isPrefix := (List.prefix_cons_inj m).2 h.isPrefix
  bears := (bears_cons hm shown).2 h.bears
  longest q hq hb := by
    cases q with
    | nil => exact List.nil_prefix
    | cons m' q =>
      obtain ⟨rfl, hq'⟩ := List.cons_prefix_cons.1 hq
      exact (List.prefix_cons_inj m').2 (h.longest q hq' ((bears_cons hm q).1 hb))

lemma cuts_of_full {s : Sinks} {stream : Stream} (b : UInt8) (ms : List Mark)
    (h : (s.get stream).room? = some 0) : s.Cuts (.byte stream b :: ms) [] where
  isPrefix := List.nil_prefix
  bears := s.bears_nil
  longest q hq hb := by
    cases q with
    | nil => exact List.nil_prefix
    | cons m q =>
      obtain ⟨rfl, -⟩ := List.cons_prefix_cons.1 hq
      have hroom := hb.room stream 0 h
      simp [Mark.bytes_cons, Mark.byte?] at hroom

lemma cuts_of_unflushable {s : Sinks} {stream : Stream} {fault : SinkFault} (ms : List Mark)
    (h : (s.get stream).flushFault? = some fault) :
    s.Cuts (.flush stream :: ms) [.flush stream] where
  isPrefix := (List.prefix_cons_inj _).2 List.nil_prefix
  bears := by constructor <;> simp [Mark.bytes_cons, Mark.byte?]
  longest q hq hb := by
    cases q with
    | nil => exact List.nil_prefix
    | cons m q =>
      obtain ⟨rfl, -⟩ := List.cons_prefix_cons.1 hq
      cases q with
      | nil => exact List.prefix_rfl
      | cons m q => simp [hb.flush stream (List.mem_cons_self ..)] at h

lemma pass_cuts (s : Sinks) (ms : List Mark) :
    s.Cuts ms (s.pass ms).marks ∧ (s.pass ms).fault = s.breach? ms (s.pass ms).marks := by
  -- A mark that passes leaves sinks with less room, and they cut the rest.
  induction ms generalizing s with
  | nil => exact ⟨⟨List.prefix_rfl, s.bears_nil, fun _ h _ => h⟩, rfl⟩
  | cons m ms ih =>
    cases hm : (s.passOne m).fault with
    | none =>
      obtain ⟨hc, hf⟩ := ih (s.passOne m).sinks
      simp only [pass, hm, marks_passOne hm, List.singleton_append]
      exact ⟨hc.cons hm, hf.trans (breach?_cons hm ms _).symm⟩
    | some fault =>
      simp only [pass, hm]
      cases m with
      | byte stream b =>
        obtain ⟨hroom, hfault, hleft⟩ := Sink.fault_write_singleton _ b hm
        have hmarks : (s.passOne (.byte stream b)).marks = [] := by simp [passOne, hleft]
        rw [hmarks]
        exact ⟨cuts_of_full b ms hroom, hfault.symm⟩
      | flush stream =>
        refine ⟨cuts_of_unflushable ms hm, ?_⟩
        rw [breach?, failedFlush?, passOne]
        simp [show (s.get stream).flushFault? = some fault from hm]
      | _ => cases hm

lemma Bears.snoc {s : Sinks} {shown : List Mark} {m : Mark} (h : s.Bears shown)
    (hflush : s.failedFlush? shown = none)
    (hm : ∀ stream b, m = .byte stream b → (s.get stream).writeFault? = none) :
    s.Bears (shown ++ [m]) where
  room stream room hr := by
    have hroom := h.room stream room hr
    cases hb : Mark.byte? stream m with
    | none => simpa [Mark.bytes_cons, hb] using hroom
    | some b =>
      cases m <;> simp [Mark.byte?] at hb
      have hfault := hm stream b (by rw [hb.1, hb.2])
      cases hs : s.get stream <;> simp [hs, Sink.room?, Sink.writeFault?] at hr hfault
  flush stream hmem := by
    rw [List.dropLast_concat] at hmem
    rcases List.eq_nil_or_concat shown with rfl | ⟨front, last, rfl⟩
    · cases hmem
    rw [List.concat_eq_append, List.mem_append, List.mem_singleton] at hmem
    rcases hmem with hmem | rfl
    · exact h.flush stream (by simpa using hmem)
    · simpa [failedFlush?] using hflush

lemma Cuts.breach?_isSome_iff {s : Sinks} {full shown : List Mark} (h : s.Cuts full shown) :
    (s.breach? full shown).isSome ↔ shown ≠ full ∨ (s.failedFlush? shown).isSome := by
  rw [breach?, Option.isSome_or, Bool.or_eq_true, or_comm]
  refine or_congr_left' fun hflush => ⟨?_, fun hne => ?_⟩
  · rintro hbyte rfl
    simp [refusedByte?] at hbyte
  obtain ⟨rest, rfl⟩ := h.isPrefix
  cases rest with
  | nil => exact absurd (List.append_nil _).symm hne
  | cons m rest =>
    by_contra hbyte
    have hbears : s.Bears (shown ++ [m]) := by
      refine h.bears.snoc (by simpa using hflush) fun stream b hm => ?_
      simpa [refusedByte?, hm] using hbyte
    have hlen := (h.longest _ (by simp) hbears).length_le
    rw [List.length_append, List.length_singleton] at hlen
    omega

end Sinks

/-! ### Whole runs -/

open Event

def Mark.beforeClose (ms : List Mark) : List Mark := ms.takeWhile (· ≠ .close)

lemma Mark.beforeClose_append {ms closing : List Mark} (h : .close ∉ ms)
    (hc : closing = [] ∨ closing = [.close]) : beforeClose (ms ++ closing) = ms := by
  have hall : ∀ m ∈ ms, decide (m ≠ .close) = true := by
    intro m hm
    exact decide_eq_true (ne_of_mem_of_not_mem hm h)
  rw [beforeClose, List.takeWhile_append_of_pos hall]
  rcases hc with rfl | rfl <;> simp

/-- `e` is what the sinks make of the run that `good` is through sinks that take everything, and
that shows `full` before it closes its session. -/
structure Execution.Through {σ : Type} (given : Sinks) (full : List Mark)
    (good e : Execution σ) : Prop where
  unclosed : .close ∉ full
  result : e.result = orFault (some ∘ .error) (given.pass full).fault good.result
  marks : ∃ closing, (closing = [] ∨ closing = [.close]) ∧
    Mark.ofEvents good.events = full ++ closing ∧
    Mark.ofEvents e.events =
      (given.pass full).marks ++ orFault (fun _ => [.close]) (given.pass full).fault closing

section Through

variable {σ : Type} (k : Connector σ) (shutdown : Shutdown) {state s : σ} {logs : List LogEntry}

lemma close_notMem_executeAll (commands : List String) (sinks : Sinks) (state : σ) :
    .close ∉ Mark.ofEvents (executeAll k shutdown commands sinks state).events := by
  intro hmem
  obtain ⟨event, he, hm⟩ := List.mem_flatMap.1 hmem
  refine notMem_executeAll k shutdown (.inr rfl) commands sinks state ?_
  rcases event with _ | _ | _ | (_ | _) | _ <;> simp [Mark.ofEvent] at hm
  exact he

lemma ofEvents_run (h : (k.connect state).settle shutdown = .value ⟨.ok (), logs, s⟩)
    (commands : List String) (sinks : Sinks) :
    let body := executeAll k shutdown commands sinks s
    Mark.ofEvents (run k commands shutdown sinks state).events =
      .connect :: Mark.ofEvents body.events ++ if body.result.isSome then [.close] else [] := by
  intro body
  cases hb : body.result with
  | none => simp [run_of_unended k shutdown h hb, Mark.ofEvent, body]
  | some result => simp [run_of_ended k shutdown h hb, Mark.ofEvent, finish, body]

lemma run_through (commands : List String) (sinks : Sinks) (state : σ) :
    ∃ full, Execution.Through sinks full (run k commands shutdown {} state)
      (run k commands shutdown sinks state) := by
  have hunopened {e : Execution σ} (h : Unopened e.events) :
      Execution.Through sinks [.connect] e e := by
    obtain ⟨logs, hlogs⟩ := h
    exact ⟨by simp, rfl, [], .inl rfl, by simp [hlogs, Mark.ofEvent],
      by simp [hlogs, Mark.ofEvent, Sinks.pass, Sinks.passOne, orFault]⟩
  cases h : (k.connect state).settle shutdown with
  | never logs s =>
    rw [run_of_never k shutdown h, run_of_never k shutdown h]
    exact ⟨_, hunopened ⟨logs, rfl⟩⟩
  | interrupted logs s =>
    rw [run_of_interrupted k shutdown h, run_of_interrupted k shutdown h]
    exact ⟨_, hunopened ⟨_, rfl⟩⟩
  | value reply =>
    obtain ⟨cause | ⟨⟨⟩⟩, logs, s⟩ := reply
    · rw [run_of_refused k shutdown h, run_of_refused k shutdown h]
      exact ⟨_, hunopened ⟨logs, rfl⟩⟩
    obtain ⟨hm, hr⟩ := executeFrom_through k shutdown commands.length 0 commands sinks s
    rw [← executeAll, ← executeAll] at hm hr
    have hgood := ofEvents_run k shutdown h commands {}
    have he := ofEvents_run k shutdown h commands sinks
    have hpass (ms : List Mark) : sinks.pass (.connect :: ms) =
        ⟨.connect :: (sinks.pass ms).marks, (sinks.pass ms).sinks, (sinks.pass ms).fault⟩ := rfl
    refine ⟨_, ?_, ?_, _, ?_, hgood, ?_⟩
    · simpa using close_notMem_executeAll k shutdown commands {} s
    · rw [hpass, (run_of_connected h).1, (run_of_connected h).1, hr]
    · split_ifs <;> simp
    · rw [he, hpass, hm, hr]
      cases (sinks.pass _).fault <;> rfl

end Through

/-- A run whose output fails shows the longest prefix that its sinks can bear of what it would show
if they took everything. Cut short, or behind a flush that fails, it ends with the fault and closes
the session; else it is the same. -/
theorem run_truncates_output {σ : Type} (k : Connector σ) (commands : List String)
    (shutdown : Shutdown) (sinks : Sinks) (state : σ) :
    let good := run k commands shutdown {} state
    let e := run k commands shutdown sinks state
    let full := Mark.beforeClose (Mark.ofEvents (trace good.events))
    let shown := Mark.beforeClose (Mark.ofEvents (trace e.events))
    sinks.Cuts full shown ∧
    (shown ≠ full ∨ (sinks.failedFlush? shown).isSome →
      ∃ fault, sinks.breach? full shown = some fault ∧
        e.result = some (.error (.io fault.message)) ∧
        Mark.ofEvents (trace e.events) = shown ++ [.close]) ∧
    (shown = full → sinks.failedFlush? shown = none →
      e.result = good.result ∧
        Mark.ofEvents (trace e.events) = Mark.ofEvents (trace good.events)) ∧
    ∀ stream, written stream e.events <+: written stream good.events := by
  intro good e full shown
  obtain ⟨ms, h⟩ := run_through k shutdown commands sinks state
  obtain ⟨closing, hc, hgood, he⟩ := h.marks
  obtain ⟨hcuts, hfault⟩ := sinks.pass_cuts ms
  have hfull : full = ms := by
    simp only [full, Mark.ofEvents_trace, good, hgood, Mark.beforeClose_append h.unclosed hc]
  have hshown : shown = (sinks.pass ms).marks := by
    have hnot : .close ∉ (sinks.pass ms).marks := fun hm => h.unclosed (hcuts.isPrefix.subset hm)
    simp only [shown, Mark.ofEvents_trace, e, he]
    refine Mark.beforeClose_append hnot ?_
    cases (sinks.pass ms).fault with
    | none => exact hc
    | some fault => exact .inr rfl
  rw [hfull, hshown]
  refine ⟨hcuts, fun hcut => ?_, fun hwhole hflush => ?_, fun stream => ?_⟩
  · obtain ⟨fault, hbreach⟩ := Option.isSome_iff_exists.1 (hcuts.breach?_isSome_iff.2 hcut)
    rw [hbreach] at hfault
    refine ⟨fault, hbreach, h.result.trans (by rw [hfault]; rfl), ?_⟩
    rw [Mark.ofEvents_trace, he, hfault]
    rfl
  · have hnone : (sinks.pass ms).fault = none := by
      rw [hfault, ← Option.not_isSome_iff_eq_none, hcuts.breach?_isSome_iff, not_or]
      exact ⟨fun hne => hne hwhole, by simp [hflush]⟩
    refine ⟨h.result.trans (by rw [hnone]; rfl), ?_⟩
    rw [Mark.ofEvents_trace, Mark.ofEvents_trace, he, hgood, hnone, hwhole]
    rfl
  · have hclosing {c : List Mark} (hc : c = [] ∨ c = [.close]) : Mark.bytes stream c = [] := by
      rcases hc with rfl | rfl <;> rfl
    have hbehind : Mark.bytes stream
        (orFault (fun _ => [.close]) (sinks.pass ms).fault closing) = [] := by
      cases (sinks.pass ms).fault with
      | none => exact hclosing hc
      | some fault => exact hclosing (.inr rfl)
    rw [← Mark.bytes_ofEvents, ← Mark.bytes_ofEvents, he, hgood, Mark.bytes_append,
      Mark.bytes_append, hbehind, hclosing hc, List.append_nil, List.append_nil]
    exact hcuts.isPrefix.filterMap _

theorem run_truncates_output_notice :
    let e (sinks : Sinks) := run (scripted .session none) ["a", "b", "c"] .never sinks
      [.result "x" "" 0, .result "" "no" 3]
    let noSpace := SinkFault.os .noSpace
    let full : Sinks := { err := .limited 10 noSpace }
    let unflushable : Sinks := { out := .unflushable .tookNothing }
    let ample : Sinks := ⟨.limited 99 .tookNothing, .limited 99 .tookNothing⟩
    (e full).result = some (.error (.io noSpace.message)) ∧
      Mark.ofEvents (trace (e full).events) = Mark.ofEvents
        ([.connect, .exec "a"] ++ block .out ["$ a", "x"] ++ [.exec "b"] ++ block .out ["$ b"] ++
          block .err ["no"] ++ [.output (.write .err (Utf8.encode "Command")), .close]) ∧
      (e unflushable).result = some (.error (.io SinkFault.tookNothing.message)) ∧
      commands (e unflushable).events = ["a"] ∧
      (e ample).result = (e {}).result := by
  intro e noSpace full unflushable ample
  have hcut (sinks : Sinks) := run_truncates_output (scripted .session none) ["a", "b", "c"] .never
    sinks [.result "x" "" 0, .result "" "no" 3]
  obtain ⟨fault, hf, hr, hm⟩ := (hcut full).2.1 (.inl (by decide +kernel))
  obtain ⟨fault', hf', hr', -⟩ := (hcut unflushable).2.1 (.inr (by decide +kernel))
  obtain rfl : noSpace = fault := Option.some.inj (Eq.trans (by decide +kernel) hf)
  obtain rfl : .tookNothing = fault' := Option.some.inj (Eq.trans (by decide +kernel) hf')
  exact ⟨hr, hm.trans (by decide +kernel), hr', by decide +kernel,
    ((hcut ample).2.2.1 (by decide +kernel) (by decide +kernel)).1⟩

end RemoteBatch.Run
