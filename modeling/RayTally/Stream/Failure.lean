/-!
# Failures of input and output

What can go wrong when bytes are moved: the operating system refuses, a path cannot be passed to it,
a text is not UTF-8, or the other side gives up. A failure is a cause; `Failure.message` has the
words.
-/

namespace RayTally

/-- The refusals of the operating system. -/
inductive SystemError
  | notFound
  | alreadyExists
  | notDirectory
  | isDirectory
  | noSpace
  | nameTooLong
  | linkLoop
  deriving DecidableEq, Repr

/-- The number of a refusal. -/
def SystemError.code : SystemError → Nat
  | notFound => 2
  | alreadyExists => 17
  | notDirectory => 20
  | isDirectory => 21
  | noSpace => 28
  | nameTooLong => 36
  | linkLoop => 40

/-- The description of a refusal. -/
def SystemError.description : SystemError → String
  | notFound => "No such file or directory"
  | alreadyExists => "File exists"
  | notDirectory => "Not a directory"
  | isDirectory => "Is a directory"
  | noSpace => "No space left on device"
  | nameTooLong => "File name too long"
  | linkLoop => "Too many levels of symbolic links"

/-- Why bytes **could not be moved**. -/
inductive Failure
  | system (e : SystemError)
  | nulInPath
  | notUtf8
  | wroteNothing
  | other (why : String)
  deriving DecidableEq, Repr

/-- The words for a failure. -/
def Failure.message : Failure → String
  | system e => s!"{e.description} (os error {toString e.code})"
  | nulInPath => "file name contained an unexpected NUL byte"
  | notUtf8 => "stream did not contain valid UTF-8"
  | wroteNothing => "failed to write whole buffer"
  | other why => why

end RayTally
