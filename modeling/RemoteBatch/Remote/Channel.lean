import RemoteBatch.Run.Report
import RemoteBatch.RunError
import RemoteBatch.Text.Graphic
import RemoteBatch.Text.Utf8

/-!
What a server sends on the channel of a command, and the result that is gathered from it: both
output streams and the exit status, up to the message at which reading stops.
-/

namespace RemoteBatch.Remote

inductive Message
  | data (bytes : Bytes)
  /-- Data of a further stream; code 1 is standard error. -/
  | extended (code : Nat) (bytes : Bytes)
  | status (n : Nat)
  | signal (name : String)
  | eof
  | close
  | success
  /-- The server refused to start the command. -/
  | failure
  deriving DecidableEq, Repr

inductive ChannelEvent
  | message (m : Message)
  | disconnect
  | hang
  deriving DecidableEq, Repr

def signalStatus : Nat := 255

structure Gathered where
  stdout : Bytes := []
  stderr : Bytes := []
  status : Option Nat := none
  atEof : Bool := false
  signals : List String := []
  deriving DecidableEq, Repr

namespace Gathered

def add (g : Gathered) : Message → Gathered
  | .data bs => { g with stdout := g.stdout ++ bs }
  | .extended code bs =>
    if code = 1 then { g with stderr := g.stderr ++ bs } else { g with stdout := g.stdout ++ bs }
  | .status n => { g with status := some n }
  | .signal name => { g with status := some signalStatus, signals := g.signals ++ [name] }
  | .eof => { g with atEof := true }
  | .close | .success | .failure => g

def isComplete (g : Gathered) : Bool := g.atEof && g.status.isSome

def result (g : Gathered) (command : String) : Except RunError Run.CommandResult :=
  match g.status with
  | none => .error (.channel "Channel closed without an exit status")
  | some n =>
    .ok ⟨command, Utf8.decodeLossy g.stdout, Utf8.decodeLossy g.stderr, n⟩

end Gathered

inductive Collected
  | complete (g : Gathered) (rest : List ChannelEvent)
  | cut (g : Gathered)
  /-- Not at all; `noticed` tells whether the stall is an event of its own. -/
  | stalled (noticed : Bool) (g : Gathered)

def collect (g : Gathered) : List ChannelEvent → Collected
  | [] => .stalled false g
  | .hang :: _ => .stalled true g
  | .disconnect :: _ => .cut g
  | .message m :: rest =>
    let g := g.add m
    if m = .close || g.isComplete then .complete g rest else collect g rest

def knownSignals : List String :=
  ["ABRT", "ALRM", "FPE", "HUP", "ILL", "INT", "KILL", "PIPE", "QUIT", "SEGV", "TERM", "USR1"]

def signalText (name : String) : String :=
  if knownSignals.contains name then name else s!"Custom({Text.quote name})"

end RemoteBatch.Remote
