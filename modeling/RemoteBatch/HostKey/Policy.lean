import RemoteBatch.HostKey.KnownHosts
import RemoteBatch.Log

/-!
Policies for host keys: whether a key that a server presents is accepted, what is logged about it,
and what a first use records.
-/

namespace RemoteBatch.HostKey

inductive Policy
  | acceptAny
  | trustOnFirstUse (knownHosts : Option Path)
  | strictKnownHosts (knownHosts : Option Path)
  | rejectUnknown (fingerprints : List String)
  deriving DecidableEq, Repr

namespace Policy

def standard : Policy := .strictKnownHosts none

def isInsecure : Policy → Bool
  | acceptAny => true
  | _ => false

def defaultKnownHosts (t : FileTree) : Path := t.home ++ Utf8.encode "/.ssh/known_hosts"

def knownHosts? (t : FileTree) : Policy → Option Path
  | trustOnFirstUse path | strictKnownHosts path => some (path.getD (defaultKnownHosts t))
  | _ => none

def bareFingerprint (s : String) : String :=
  let cs := Text.trimChars s.toList
  let label := PublicKey.fingerprintLabel.toList
  String.ofList (if label.isPrefixOf cs then cs.drop label.length else cs)

def isPinned (fingerprints : List String) (key : PublicKey) : Bool :=
  fingerprints.any fun f => bareFingerprint f = bareFingerprint key.fingerprint

structure Verdict where
  accepted : Bool
  logs : List LogEntry
  files : FileTree

namespace Verdict

def pass (t : FileTree) (logs : List LogEntry) : Verdict := ⟨true, logs, t⟩

def refuse (t : FileTree) (complaint : String) : Verdict :=
  ⟨false, [Topic.hostKey.error complaint], t⟩

end Verdict

def acceptNew (t : FileTree) (path : Path) (host : String) (port : Nat) (key : PublicKey) :
    Verdict :=
  let notice := Topic.hostKey.warn
    s!"Trust-On-First-Use: accepting unknown host key for {host}:{port} ({key.fingerprint})"
  match KnownHosts.learn t path (KnownHosts.name host port) key with
  | (t, .ok ()) => .pass t [notice]
  | (t, .error fault) =>
    .pass t
      [notice, Topic.hostKey.warn s!"Failed to save host key to known_hosts: {fault.message}"]

def verifyFirstUse (t : FileTree) (path : Path) (host : String) (port : Nat) (key : PublicKey) :
    Verdict :=
  match KnownHosts.lookup t path (KnownHosts.name host port) key with
  | .recorded => .pass t []
  | .changed line =>
    .refuse t s!"Host key for {host}:{port} does not match known_hosts line {line}"
  | .unknown | .failed _ => acceptNew t path host port key

def verifyStrict (t : FileTree) (path : Path) (host : String) (port : Nat) (key : PublicKey) :
    Verdict :=
  match KnownHosts.lookup t path (KnownHosts.name host port) key with
  | .recorded => .pass t []
  | .unknown => .refuse t s!"Host {host}:{port} is not in known_hosts ({key.fingerprint})"
  | .changed line =>
    .refuse t s!"Host key check for {host}:{port} failed: The server key changed at line {line}"
  | .failed fault => .refuse t s!"Host key check for {host}:{port} failed: {fault.message}"

def verifyPinned (t : FileTree) (fingerprints : List String) (host : String) (port : Nat)
    (key : PublicKey) : Verdict :=
  if isPinned fingerprints key then
    .pass t [Topic.hostKey.debug s!"Host key {key.fingerprint} is pinned"]
  else
    .refuse t s!"Host key {key.fingerprint} for {host}:{port} is not in the allowed list"

def verify (p : Policy) (t : FileTree) (host : String) (port : Nat) (key : PublicKey) : Verdict :=
  match p with
  | acceptAny =>
    .pass t [Topic.hostKey.warn
      s!"Accepting host key for {host}:{port} without verification ({key.fingerprint})"]
  | trustOnFirstUse path => verifyFirstUse t (path.getD (defaultKnownHosts t)) host port key
  | strictKnownHosts path => verifyStrict t (path.getD (defaultKnownHosts t)) host port key
  | rejectUnknown fingerprints => verifyPinned t fingerprints host port key

end Policy

end RemoteBatch.HostKey
