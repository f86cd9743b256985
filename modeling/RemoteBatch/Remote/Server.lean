import RemoteBatch.HostKey.Policy
import RemoteBatch.Remote.Channel

/-!
Where to connect, and what is met there: servers, whose behaviour is laid down beforehand, and the
network that leads to them.
-/

namespace RemoteBatch.Remote

structure Target where
  host : String
  username : String
  password : String
  port : Nat := 22
  /-- Bounds the way to the server with its handshake, and the authentication once more. -/
  connectTimeout : Duration := .ofSeconds 10
  commandTimeout : Option Duration := none
  policy : HostKey.Policy := .standard
  deriving DecidableEq, Repr

def Target.address (t : Target) : String := s!"{t.host}:{t.port}"

inductive KeyExchange
  | completes
  | fails (reason : String)
  | hang
  deriving DecidableEq, Repr

inductive Login
  | accept
  | reject
  | check (user password : String)
  | hang
  | disconnect
  /-- The credentials cannot be sent, as when the connection was lost before. -/
  | fails (reason : String)
  deriving DecidableEq, Repr

inductive ChannelStart
  | opens
  | refused (reason : String)
  | hang
  /-- It is opened, but the command cannot be sent. -/
  | fails (reason : String)
  deriving DecidableEq, Repr

structure Server where
  key : HostKey.PublicKey
  keyExchange : KeyExchange := .completes
  login : Login := .accept
  start : Nat → ChannelStart := fun _ => .opens
  /-- What happens on the channel of each command that is sent, in the order in which they come. -/
  scripts : List (List ChannelEvent) := []
  /-- Whether the connection still stands behind the login and so many channels, if no script has
  ended it. -/
  stands : Nat → Bool := fun _ => true

inductive Endpoint
  /-- No way leads there, which is known at once. -/
  | unreachable (reason : String)
  /-- Takes the connection and says nothing. -/
  | silent
  /-- Fails before a key is presented: on the way, or in the handshake. -/
  | failing (reason : String)
  | server (s : Server)

abbrev Network := String → Nat → Endpoint

def Network.isolated : Network :=
  fun _ _ => .unreachable OsFault.networkUnreachable.message

inductive Request
  | login (user password : String)
  | command (text : String)
  deriving DecidableEq, Repr

end RemoteBatch.Remote
