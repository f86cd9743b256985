/-!
The names of the host key policies.
-/

namespace RemoteBatch.Settings

inductive PolicyMode
  | acceptAny
  | trustOnFirstUse
  | strictKnownHosts
  | rejectUnknown
  deriving DecidableEq, Repr

namespace PolicyMode

def all : List PolicyMode := [acceptAny, trustOnFirstUse, strictKnownHosts, rejectUnknown]

def standard : PolicyMode := strictKnownHosts

def name : PolicyMode → String
  | acceptAny => "accept-any"
  | trustOnFirstUse => "trust-on-first-use"
  | strictKnownHosts => "strict-known-hosts"
  | rejectUnknown => "reject-unknown"

def alias? : PolicyMode → Option String
  | acceptAny => none
  | trustOnFirstUse => some "tofu"
  | strictKnownHosts => some "strict"
  | rejectUnknown => some "pinned"

def description : PolicyMode → String
  | acceptAny => "Accept any host key (insecure)"
  | trustOnFirstUse => "Accept and remember unknown hosts, reject changed keys"
  | strictKnownHosts => "Accept only hosts already in known_hosts"
  | rejectUnknown => "Accept only the fingerprints given with --host-key-fingerprint"

def ofName? (s : String) : Option PolicyMode := all.find? fun m => m.name = s || m.alias? = some s

end PolicyMode

end RemoteBatch.Settings
