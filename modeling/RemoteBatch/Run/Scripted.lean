import RemoteBatch.Run.Connector

/-!
Scripted sessions: what every action will come to is laid down beforehand. A command takes the next
response; behind the last one every command succeeds and prints nothing.
-/

namespace RemoteBatch.Run

inductive Response
  | result (stdout stderr : String) (exitStatus : Nat)
  | resultOf (command stdout stderr : String) (exitStatus : Nat)
  | error (e : RunError)
  | hang
  deriving DecidableEq, Repr

inductive Opening
  | session
  | error (e : RunError)
  | hang
  deriving DecidableEq, Repr

namespace Response

def answer? (command : String) : Response → Option (Except RunError CommandResult)
  | result stdout stderr exitStatus => some (.ok ⟨command, stdout, stderr, exitStatus⟩)
  | resultOf named stdout stderr exitStatus => some (.ok ⟨named, stdout, stderr, exitStatus⟩)
  | error e => some (.error e)
  | hang => none

def silent : Response := result "" "" 0

end Response

def scripted (opening : Opening) (closing : Option RunError) : Connector (List Response) where
  connect rest :=
    match opening with
    | .session => .done { value := .ok (), state := rest }
    | .error e => .done { value := .error e, state := rest }
    | .hang => .stalls true [] rest none
  exec command rest :=
    match (rest.headD .silent).answer? command with
    | some value => .done { value := value, state := rest.tail }
    | none => .stalls true [] rest.tail none
  close rest :=
    { value := match closing with
        | none => .ok ()
        | some e => .error e
      state := rest }

end RemoteBatch.Run
