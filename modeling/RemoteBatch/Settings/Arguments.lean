import RemoteBatch.Files.Tree
import RemoteBatch.Settings.PolicyMode
import RemoteBatch.Settings.UsageError

/-!
Reading the command line and the environment. A command line is read from the left. An option whose
value is still to come is settled by the next option or by the end: only then is its value checked.
Variables of the environment stand in for options that are not given; what excludes what is checked
last.
-/

namespace RemoteBatch.Settings

abbrev Environment := List (String × Bytes)

structure Arguments where
  host : Option String := none
  port : Option Nat := none
  user : Option String := none
  password : Option String := none
  timeout : Option Nat := none
  commandTimeout : Option Nat := none
  commands : List String := []
  commandsFile : Option Path := none
  config : Option Path := none
  hostKeyPolicy : PolicyMode := .standard
  hostKeyFingerprints : List String := []
  knownHosts : Option Path := none
  dryRun : Bool := false
  verbosity : Nat := 0
  deriving DecidableEq, Repr

inductive Halt
  | usage (error : UsageError)
  | help (long : Bool)
  | version
  deriving DecidableEq, Repr

namespace Arguments

def maxVerbosity : Nat := 255

def readText (raw : Bytes) : Except UsageError String :=
  match Utf8.decode? raw with
  | some s => .ok s
  | none => .error .notUtf8

def readPath (flag : Flag) (raw : Bytes) : Except UsageError Path :=
  if raw = [] then .error (.valueRequired flag) else .ok raw

def readPort (flag : Flag) (raw : Bytes) : Except UsageError Nat := do
  let s ← readText raw
  match Decimal.readInt Decimal.maxInt64 s.toList with
  | .error fault => .error (.invalidNumber s flag (.text fault))
  | .ok n =>
    if 0 ≤ n ∧ n ≤ Decimal.maxUInt16 then .ok n.toNat
    else .error (.invalidNumber s flag (.outOfRange n Decimal.maxUInt16))

def readSeconds (flag : Flag) (raw : Bytes) : Except UsageError Nat := do
  let s ← readText raw
  match Decimal.readNat Decimal.maxUInt64 s.toList with
  | .error fault => .error (.invalidNumber s flag (.text fault))
  | .ok n => .ok n

def readMode (flag : Flag) (raw : Bytes) : Except UsageError PolicyMode :=
  match Utf8.decode? raw with
  | none => .error (.invalidChoice (Utf8.decodeLossy raw) flag)
  | some s =>
    match PolicyMode.ofName? s with
    | some mode => .ok mode
    | none => .error (if s = "" then .valueRequired flag else .invalidChoice s flag)

def put (a : Arguments) (flag : Flag) (raw : Bytes) : Except UsageError Arguments := do
  match flag with
  | .host => .ok { a with host := some (← readText raw) }
  | .port => .ok { a with port := some (← readPort flag raw) }
  | .user => .ok { a with user := some (← readText raw) }
  | .password => .ok { a with password := some (← readText raw) }
  | .timeout => .ok { a with timeout := some (← readSeconds flag raw) }
  | .commandTimeout => .ok { a with commandTimeout := some (← readSeconds flag raw) }
  | .command => .ok { a with commands := a.commands ++ [← readText raw] }
  | .commandsFile => .ok { a with commandsFile := some (← readPath flag raw) }
  | .config => .ok { a with config := some (← readPath flag raw) }
  | .hostKeyPolicy => .ok { a with hostKeyPolicy := ← readMode flag raw }
  | .hostKeyFingerprint =>
    .ok { a with hostKeyFingerprints := a.hostKeyFingerprints ++ [← readText raw] }
  | .knownHosts => .ok { a with knownHosts := some (← readPath flag raw) }
  | .dryRun => .ok { a with dryRun := true }
  | .verbose => .ok { a with verbosity := min maxVerbosity (a.verbosity + 1) }
  | .help | .version => .ok a

inductive Token
  | separator
  | long (name : Bytes) (value : Option Bytes)
  | letters (bs : Bytes)
  | plain
  deriving DecidableEq, Repr

namespace Token

def dash : UInt8 := 45

def equals : UInt8 := 61

def ofArgument : Bytes → Token
  | a :: b :: t =>
    if a ≠ dash then plain
    else if b ≠ dash then letters (b :: t)
    else if t = [] then separator
    else match t.dropWhile (· ≠ equals) with
      | [] => long t none
      | _ :: value => long (t.takeWhile (· ≠ equals)) (some value)
  | _ => plain

end Token

/-- What has been read: the options settled, which of them were given, and one that waits to be
settled, with its value if that has come. -/
structure Reading where
  arguments : Arguments := {}
  given : List Flag := []
  waiting : Option (Flag × Option Bytes) := none

namespace Reading

def record (r : Reading) (flag : Flag) (value : Option Bytes) : Except Halt Reading := do
  if flag.takesValue ∧ value = none then .error (.usage (.valueRequired flag))
  else if flag ∈ r.given ∧ ¬ flag.isRepeatable then .error (.usage (.repeated flag))
  else
    let a ← (r.arguments.put flag (value.getD [])).mapError .usage
    .ok { r with arguments := a, given := r.given ++ [flag] }

def settle (r : Reading) : Except Halt Reading :=
  match r.waiting with
  | none => .ok r
  | some (flag, value) => record { r with waiting := none } flag value

def take (r : Reading) (flag : Flag) (value : Bytes) : Except Halt Reading := do
  (← r.settle).record flag (some value)

def await (r : Reading) (flag : Flag) : Except Halt Reading := do
  .ok { ← r.settle with waiting := some (flag, none) }

def raise (r : Reading) (flag : Flag) (long : Bool) : Except Halt Reading := do
  let r ← r.settle
  match flag with
  | .help => .error (.help long)
  | .version => .error .version
  | _ => r.record flag none

def unexpected (text : String) : Except Halt Reading := .error (.usage (.unexpectedArgument text))

def readLong (r : Reading) (name : Bytes) (value : Option Bytes) : Except Halt Reading :=
  match (Utf8.decode? name).bind Flag.ofLong? with
  | none => unexpected ("--" ++ Utf8.decodeLossy name)
  | some flag =>
    match flag.takesValue, value with
    | true, some value => r.take flag value
    | true, none => r.await flag
    | false, some value => .error (.usage (.unexpectedValue (Utf8.decodeLossy value) flag))
    | false, none => r.raise flag true

/-- The value that is attached to a letter: the rest of the argument, less one `=` in front. -/
def attached (rest : Bytes) : Bytes := if rest.head? = some Token.equals then rest.tail else rest

/-- Letters behind one dash; the first that takes a value takes the rest of the argument. `n` bytes
of the letter before are still to be skipped. -/
def readLetters (r : Reading) : (n : Nat) → Bytes → Except Halt Reading
  | _, [] => .ok r
  | n + 1, _ :: t => readLetters r n t
  | 0, a :: t =>
    match Utf8.front a t with
    | (none, _) => unexpected ("-" ++ Utf8.decodeLossy (a :: t))
    | (some letter, n) =>
      match Flag.ofShort? letter with
      | none => unexpected ("-" ++ letter.toString)
      | some flag =>
        if flag.takesValue then
          if t.drop n = [] then r.await flag else r.take flag (attached (t.drop n))
        else do readLetters (← r.raise flag false) n t

def readPlain (r : Reading) (argument : Bytes) : Except Halt Reading :=
  match r.waiting with
  | some (flag, none) => .ok { r with waiting := some (flag, some argument) }
  | _ => unexpected (Utf8.decodeLossy argument)

def readAll (r : Reading) : List Bytes → Except Halt Reading
  | [] => r.settle
  | argument :: rest =>
    match Token.ofArgument argument with
    | .separator =>
      match rest with
      | [] => r.settle
      | next :: _ => unexpected (Utf8.decodeLossy next)
    | .long name value => do readAll (← r.readLong name value) rest
    | .letters bs => do readAll (← r.readLetters 0 bs) rest
    | .plain => do readAll (← r.readPlain argument) rest

def fallBack (env : Environment) (r : Reading) (flag : Flag) : Except Halt Reading :=
  if flag ∈ r.given then .ok r
  else match flag.envName?.bind (List.lookup · env) with
    | some value => r.record flag (some value)
    | none => .ok r

def conflict? (r : Reading) : Option UsageError :=
  match r.given.filter fun f => f = .command || f = .commandsFile with
  | [] => none
  | first :: rest => (rest.find? (· ≠ first)).map fun other => .conflict first other

end Reading

def parse (argv : List Bytes) (env : Environment) : Except Halt Arguments := do
  let r ← Reading.readAll {} argv
  let r ← Flag.all.foldlM (Reading.fallBack env) r
  match r.conflict? with
  | some e => .error (.usage e)
  | none => .ok r.arguments

end Arguments

end RemoteBatch.Settings
