/-!
What a program finds at a path when it reads a text of limited size. A path without a file is no
fault; the size is checked before anything is read. The file is looked up first and read then, and
may be another one by that time.
-/

namespace DeviceChannels

/-- How the system fails to look a file up, to open it or to read it. -/
inductive ReadFault
  | notPermitted
  | notFound
  | inputOutput
  | noDevice
  | outOfMemory
  | accessDenied
  | notDirectory
  | isDirectory
  | filesOpenInSystem
  | filesOpen
  | nameTooLong
  | linksInLoop
  | valueTooLarge
  | notConnected
  | timedOut
  | staleHandle
  | nulInPath
  | notText
  deriving DecidableEq, Repr

def ReadFault.message : ReadFault → String
  | .notPermitted => "Operation not permitted (os error 1)"
  | .notFound => "No such file or directory (os error 2)"
  | .inputOutput => "Input/output error (os error 5)"
  | .noDevice => "No such device or address (os error 6)"
  | .outOfMemory => "Cannot allocate memory (os error 12)"
  | .accessDenied => "Permission denied (os error 13)"
  | .notDirectory => "Not a directory (os error 20)"
  | .isDirectory => "Is a directory (os error 21)"
  | .filesOpenInSystem => "Too many open files in system (os error 23)"
  | .filesOpen => "Too many open files (os error 24)"
  | .nameTooLong => "File name too long (os error 36)"
  | .linksInLoop => "Too many levels of symbolic links (os error 40)"
  | .valueTooLarge => "Value too large for defined data type (os error 75)"
  | .notConnected => "Transport endpoint is not connected (os error 107)"
  | .timedOut => "Connection timed out (os error 110)"
  | .staleHandle => "Stale file handle (os error 116)"
  | .nulInPath => "file name contained an unexpected NUL byte"
  | .notText => "stream did not contain valid UTF-8"

inductive FileState
  | missing
  /-- Not even the directory is there. -/
  | noDirectory
  | directory
  /-- The path leads through a regular file. -/
  | underFile
  | file (content : ByteArray)
  /-- The path cannot be looked up. -/
  | unreachable (fault : ReadFault)
  /-- Something of that size is found, but cannot be read. -/
  | unread (size : Nat) (fault : ReadFault)
  /-- Something of that size is found, and has other content once it is read. -/
  | changed (size : Nat) (content : ByteArray)

namespace FileState

/-- The size that looking the path up gives. That of a directory is never near a limit. -/
def size : FileState → Except ReadFault Nat
  | .missing | .noDirectory => .error .notFound
  | .directory => .ok 0
  | .underFile => .error .notDirectory
  | .file content => .ok content.size
  | .unreachable fault => .error fault
  | .unread size _ => .ok size
  | .changed size _ => .ok size

def content : FileState → Except ReadFault ByteArray
  | .missing | .noDirectory => .error .notFound
  | .directory => .error .isDirectory
  | .underFile => .error .notDirectory
  | .file content => .ok content
  | .unreachable fault => .error fault
  | .unread _ fault => .error fault
  | .changed _ content => .ok content

end FileState

inductive LoadFault
  | tooLarge (size : Nat)
  | unreadable (fault : ReadFault)
  deriving DecidableEq, Repr

/-- The text of a file of at most `limit` bytes, if there is a file. -/
def FileState.load (limit : Nat) (state : FileState) : Except LoadFault (Option String) :=
  match state.size with
  | .error .notFound => .ok none
  | .error fault => .error (.unreadable fault)
  | .ok size =>
    if limit < size then .error (.tooLarge size)
    else
      match state.content with
      | .error fault => .error (.unreadable fault)
      | .ok content =>
        match String.fromUTF8? content with
        | some text => .ok (some text)
        | none => .error (.unreadable .notText)

/-- What is found at a path once something else was put there. Nothing can be put where there is
no directory for it. -/
def FileState.replacedBy (old new : FileState) : FileState :=
  match old, new with
  | .noDirectory, _ => .noDirectory
  | .underFile, _ => .underFile
  | _, .noDirectory | _, .underFile => .missing
  | _, new => new

end DeviceChannels
