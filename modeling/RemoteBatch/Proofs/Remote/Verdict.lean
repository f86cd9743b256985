import RemoteBatch.Proofs.Files.Alike
import RemoteBatch.Proofs.Remote.Isolation
import RemoteBatch.Proofs.Run.Simulation

/-! What a session depends on. Of the password it is the server's verdict, and of the client's files
those that the policy for host keys uses. -/

namespace RemoteBatch

def FileTree.Avoids (t : FileTree) (path : Path) (hidden : Set Place) : Prop :=
  t.Misses path hidden ∧ (t.makeParents path).1.Misses path hidden

namespace HostKey

variable {hidden : Set Place} {t t' : FileTree} {path : Path}

namespace Policy

structure Verdict.Alike (hidden : Set Place) (v v' : Verdict) : Prop where
  accepted : v'.accepted = v.accepted
  logs : v'.logs = v.logs
  files : FileTree.AlikeBut hidden v.files v'.files

variable {host : String} {port : Nat} {key : PublicKey}

end Policy

end HostKey

namespace Remote

open Run HostKey

def Server.verdict (s : Server) (user password : String) : Login :=
  match s.login with
  | .check user' password' => if user = user' ∧ password = password' then .accept else .reject
  | answer => answer

structure Client.Alike (hidden : Set Place) (c c' : Client) : Prop where
  files : FileTree.AlikeBut hidden c.files c'.files
  session : c'.session = c.session

variable {hidden : Set Place} {c c' : Client}

section Connecting

variable {net : Network} {t : Target} {s : Server} {password : String}

end Connecting

end Remote

end RemoteBatch
