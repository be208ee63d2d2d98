/-!
Failures of the operating system's byte streams and files, and how they are worded.
-/

namespace HeaterHost

inductive IoError where
  | refused
  | unplugged (name : String)
  | noSuchFile
  | isDirectory
  | notText
  | brokenPipe
  | endOfStream
  | reset
deriving Repr, DecidableEq

def IoError.message : IoError → String
  | .refused => "connection refused"
  | .unplugged name => name ++ " is unplugged"
  | .noSuchFile => "No such file or directory (os error 2)"
  | .isDirectory => "Is a directory (os error 21)"
  | .notText => "stream did not contain valid UTF-8"
  | .brokenPipe => "broken pipe"
  | .endOfStream => "unexpected end of file"
  | .reset => "connection reset"

end HeaterHost
