import Dealias.Path

/-!
# Faults of the system

What can go wrong when the system is asked for something: a condition of the operating system with
its number, a condition known only by its kind, or one that is found while bytes are read or
written.  Each has one text.

A condition may also be made of an error of someone else's.  Then it has the text of that error and
hands its source on, which may be a fault of the system again, met while something else was handled.
So what an error names as its source (`Source.source?`) may have a source in its turn.
-/

namespace Dealias

/-- The numbered conditions of the operating system. -/
inductive Errno
  | noEntry | inputOutput | accessDenied | busy | fileExists | notDirectory | isDirectory | noSpace
  | brokenPipe | nameTooLong | tooManyLinks
  deriving DecidableEq, Repr

namespace Errno

/-- The number of a condition. -/
def code : Errno → Nat
  | noEntry => 2
  | inputOutput => 5
  | accessDenied => 13
  | busy => 16
  | fileExists => 17
  | notDirectory => 20
  | isDirectory => 21
  | noSpace => 28
  | brokenPipe => 32
  | nameTooLong => 36
  | tooManyLinks => 40

/-- All numbered conditions. -/
def all : List Errno :=
  [noEntry, inputOutput, accessDenied, busy, fileExists, notDirectory, isDirectory, noSpace,
   brokenPipe, nameTooLong, tooManyLinks]

/-- The condition with a number. -/
def ofCode? (n : Nat) : Option Errno :=
  all.find? (·.code = n)

/-- What the system calls a condition. -/
def text : Errno → String
  | noEntry => "No such file or directory"
  | inputOutput => "Input/output error"
  | accessDenied => "Permission denied"
  | busy => "Device or resource busy"
  | fileExists => "File exists"
  | notDirectory => "Not a directory"
  | isDirectory => "Is a directory"
  | noSpace => "No space left on device"
  | brokenPipe => "Broken pipe"
  | nameTooLong => "File name too long"
  | tooManyLinks => "Too many levels of symbolic links"

end Errno

/-- The kinds of condition that may be reported without a number. -/
inductive FaultKind
  | notFound | permissionDenied | connectionRefused | brokenPipe | alreadyExists | wouldBlock
  | notADirectory | isADirectory | directoryNotEmpty | readOnlyFilesystem | invalidInput
  | invalidData | timedOut | writeZero | storageFull | interrupted | unsupported | unexpectedEof
  | outOfMemory | other
  deriving DecidableEq, Repr

/-- What a kind of condition is called. -/
def FaultKind.text : FaultKind → String
  | notFound => "entity not found"
  | permissionDenied => "permission denied"
  | connectionRefused => "connection refused"
  | brokenPipe => "broken pipe"
  | alreadyExists => "entity already exists"
  | wouldBlock => "operation would block"
  | notADirectory => "not a directory"
  | isADirectory => "is a directory"
  | directoryNotEmpty => "directory not empty"
  | readOnlyFilesystem => "read-only filesystem or storage medium"
  | invalidInput => "invalid input parameter"
  | invalidData => "invalid data"
  | timedOut => "timed out"
  | writeZero => "write zero"
  | storageFull => "no storage space"
  | interrupted => "operation interrupted"
  | unsupported => "unsupported"
  | unexpectedEof => "unexpected end of file"
  | outOfMemory => "out of memory"
  | other => "other error"

mutual

/-- A request to the system that failed. -/
inductive Fault
  /-- A numbered condition. -/
  | system (errno : Errno)
  /-- A condition known only by its kind. -/
  | ofKind (kind : FaultKind)
  /-- A condition in someone else's words. -/
  | stated (text : String)
  /-- The bytes read are not a text. -/
  | notText
  /-- A path holds the byte zero, which no name can hold. -/
  | nulInPath
  /-- The writer took no more bytes. -/
  | unfinished
  /-- A numbered condition met while a file was made at a path. -/
  | making (errno : Errno) (path : Path)
  /-- A condition made of an error with this text, whose source it hands on. -/
  | carrying (text : String) (source : Source)
  deriving DecidableEq, Repr

/-- An error that another one names as its source, with all that lies behind it. -/
inductive Source
  /-- A fault of the system, with what was being handled. -/
  | system (error : SystemError)
  /-- A request that failed. -/
  | fault (fault : Fault)
  /-- Any other error, known by its text, with nothing behind it. -/
  | last (text : String)
  /-- Any other error, known by its text, with its own source. -/
  | other (text : String) (next : Source)
  deriving DecidableEq, Repr

/-- A fault of the system, with what was being handled. -/
inductive SystemError
  | directoryRead (path : Path) (fault : Fault)
  | fileRead (path : Path) (fault : Fault)
  | fileWrite (path : Path) (fault : Fault)
  /-- A path of the summary is not a text, so it has no written form. -/
  | summaryRender
  /-- The written form failed for another reason. -/
  | summaryForm (fault : Fault)
  | summaryWrite (fault : Fault)
  deriving DecidableEq, Repr

end

/-- The text of a fault. -/
def Fault.text : Fault → String
  | system errno => s!"{errno.text} (os error {errno.code})"
  | ofKind kind => kind.text
  | stated text => text
  | notText => "stream did not contain valid UTF-8"
  | nulInPath => "file name contained an unexpected NUL byte"
  | unfinished => "failed to write whole buffer"
  | making errno path => s!"{errno.text} (os error {errno.code}) at path {path.quoted}"
  | carrying text _ => text

/-- The text of the fault itself. -/
def SystemError.cause : SystemError → String
  | directoryRead _ fault => fault.text
  | fileRead _ fault => fault.text
  | fileWrite _ fault => fault.text
  | summaryRender => "path contains invalid UTF-8 characters"
  | summaryForm fault => fault.text
  | summaryWrite fault => fault.text

/-- The text of a fault of the system. -/
def SystemError.message (error : SystemError) : String :=
  match error with
  | directoryRead path _ => s!"Failed to read directory '{path.display}': {error.cause}"
  | fileRead path _ => s!"Failed to read file '{path.display}': {error.cause}"
  | fileWrite path _ => s!"Failed to write file '{path.display}': {error.cause}"
  | summaryRender => s!"Failed to render JSON summary: {error.cause}"
  | summaryForm _ => s!"Failed to render JSON summary: {error.cause}"
  | summaryWrite _ => s!"Failed to write summary: {error.cause}"

/-! ## What lies behind an error -/

/-- What a fault hands on: nothing, unless it was made of another error. -/
def Fault.source? : Fault → Option Source
  | carrying _ source => some source
  | _ => none

/-- What a fault of the system names as its source. -/
def SystemError.source (error : SystemError) : Source :=
  match error with
  | directoryRead _ fault => .fault fault
  | fileRead _ fault => .fault fault
  | fileWrite _ fault => .fault fault
  | summaryRender => .last error.cause
  | summaryForm fault => .fault fault
  | summaryWrite fault => .fault fault

namespace Source

/-- The text of an error. -/
def text : Source → String
  | system error => error.message
  | fault inner => inner.text
  | last text => text
  | other text _ => text

/-- What an error names as its source. -/
def source? : Source → Option Source
  | system error => some error.source
  | fault inner => inner.source?
  | last _ => none
  | other _ next => some next

end Source

end Dealias
