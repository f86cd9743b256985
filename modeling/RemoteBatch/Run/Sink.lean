import RemoteBatch.Files.Fault
import RemoteBatch.Run.Report

/-!
Where the output streams lead. A sink may take a limited number of bytes: a write that goes beyond
them leaves the bytes that fit and fails. Or it may take all bytes and fail to flush.
-/

namespace RemoteBatch.Run

inductive SinkFault
  | os (fault : OsFault)
  | tookNothing
  | other (text : String)
  deriving DecidableEq, Repr

def SinkFault.message : SinkFault → String
  | .os fault => fault.message
  | .tookNothing => "failed to write whole buffer"
  | .other text => text

inductive Sink
  | endless
  | limited (room : Nat) (fault : SinkFault)
  | unflushable (fault : SinkFault)
  deriving DecidableEq, Repr

namespace Sink

def write (s : Sink) (bs : Bytes) : Bytes × Sink × Option SinkFault :=
  match s with
  | limited room fault =>
    if bs.length ≤ room then (bs, limited (room - bs.length) fault, none)
    else (bs.take room, limited 0 fault, some fault)
  | s => (bs, s, none)

def flushFault? : Sink → Option SinkFault
  | unflushable fault => some fault
  | _ => none

end Sink

structure Sinks where
  out : Sink := .endless
  err : Sink := .endless
  deriving DecidableEq, Repr

structure Printed where
  outputs : List Output
  sinks : Sinks
  fault : Option SinkFault

namespace Sinks

def get (s : Sinks) : Stream → Sink
  | .out => s.out
  | .err => s.err

def set (s : Sinks) : Stream → Sink → Sinks
  | .out, sink => { s with out := sink }
  | .err, sink => { s with err := sink }

def perform (s : Sinks) : Output → Printed
  | .write stream bs =>
    let (left, sink, fault) := (s.get stream).write bs
    ⟨[.write stream left], s.set stream sink, fault⟩
  | .flush stream => ⟨[.flush stream], s, (s.get stream).flushFault?⟩

def performAll (s : Sinks) : List Output → Printed
  | [] => ⟨[], s, none⟩
  | o :: rest =>
    let first := s.perform o
    match first.fault with
    | some _ => first
    | none =>
      let later := first.sinks.performAll rest
      ⟨first.outputs ++ later.outputs, later.sinks, later.fault⟩

@[simp] theorem get_set_self (s : Sinks) (stream : Stream) (sink : Sink) :
    (s.set stream sink).get stream = sink := by
  cases stream <;> rfl

theorem get_set_of_ne (s : Sinks) {stream other : Stream} (sink : Sink) (h : other ≠ stream) :
    (s.set stream sink).get other = s.get other := by
  cases stream <;> cases other <;> first | rfl | exact absurd rfl h

@[simp] theorem set_get (s : Sinks) (stream : Stream) : s.set stream (s.get stream) = s := by
  cases stream <;> rfl

@[simp] theorem perform_endless (o : Output) :
    ({} : Sinks).perform o = ⟨[o], {}, none⟩ := by
  cases o with
  | write stream bs => cases stream <;> rfl
  | flush stream => cases stream <;> rfl

@[simp] theorem performAll_endless (os : List Output) :
    ({} : Sinks).performAll os = ⟨os, {}, none⟩ := by
  induction os with
  | nil => rfl
  | cons o rest ih => simp [performAll, ih]

theorem performAll_append (s : Sinks) (first second : List Output) :
    s.performAll (first ++ second) =
      let p := s.performAll first
      match p.fault with
      | some _ => p
      | none =>
        let q := p.sinks.performAll second
        ⟨p.outputs ++ q.outputs, q.sinks, q.fault⟩ := by
  induction first generalizing s with
  | nil => rfl
  | cons o rest ih =>
    cases h : (s.perform o).fault with
    | some fault => simp [performAll, h]
    | none =>
      simp only [List.cons_append, performAll, h, ih]
      cases hr : ((s.perform o).sinks.performAll rest).fault <;> simp [hr]

end Sinks

end RemoteBatch.Run
