/-!
What an operating system answers when an operation on a file or a stream fails.
-/

namespace RemoteBatch

inductive OsFault
  | notFound
  | exists
  | notDirectory
  | isDirectory
  | noSpace
  | brokenPipe
  | nameTooLong
  | networkUnreachable
  deriving DecidableEq, Repr

namespace OsFault

def number : OsFault → Nat
  | .notFound => 2
  | .exists => 17
  | .notDirectory => 20
  | .isDirectory => 21
  | .noSpace => 28
  | .brokenPipe => 32
  | .nameTooLong => 36
  | .networkUnreachable => 101

def description : OsFault → String
  | .notFound => "No such file or directory"
  | .exists => "File exists"
  | .notDirectory => "Not a directory"
  | .isDirectory => "Is a directory"
  | .noSpace => "No space left on device"
  | .brokenPipe => "Broken pipe"
  | .nameTooLong => "File name too long"
  | .networkUnreachable => "Network is unreachable"

def message (f : OsFault) : String := s!"{f.description} (os error {f.number})"

end OsFault

inductive FileFault
  | os (fault : OsFault)
  | nulInPath
  | notUtf8
  deriving DecidableEq, Repr

def FileFault.message : FileFault → String
  | .os fault => fault.message
  | .nulInPath => "file name contained an unexpected NUL byte"
  | .notUtf8 => "stream did not contain valid UTF-8"

end RemoteBatch
