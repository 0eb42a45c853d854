/-!
# Failures of input and output

What goes wrong when bytes are read or sent: a kind, which programs look at, and a text for
people. The failures that this library itself reports are named here.
-/

namespace WebMount

/-- What kind of failure it is. -/
inductive IoErrorKind where
  | notFound
  | permissionDenied
  | notADirectory
  | isADirectory
  | nameTooLong
  | invalidInput
  | invalidData
  | interrupted
  | writeZero
  | brokenPipe
  | connectionReset
  | other
  deriving DecidableEq, Repr

/-- A failure to read or send bytes. -/
structure IoError where
  kind : IoErrorKind
  message : String
  deriving DecidableEq, Repr

namespace IoError

/-- Nothing exists under the name. -/
def notFound : IoError := ⟨.notFound, "No such file or directory (os error 2)"⟩

/-- The entry may not be opened. -/
def permissionDenied : IoError := ⟨.permissionDenied, "Permission denied (os error 13)"⟩

/-- A name was looked up below something that is not a directory. -/
def notADirectory : IoError := ⟨.notADirectory, "Not a directory (os error 20)"⟩

/-- A directory was read as a file. -/
def isADirectory : IoError := ⟨.isADirectory, "Is a directory (os error 21)"⟩

/-- A name is longer than names can be. -/
def nameTooLong : IoError := ⟨.nameTooLong, "File name too long (os error 36)"⟩

/-- A name holds the character NUL. -/
def nulInName : IoError := ⟨.invalidInput, "file name contained an unexpected NUL byte"⟩

/-- The bytes of a text are not UTF-8. -/
def notUtf8 : IoError := ⟨.invalidData, "stream did not contain valid UTF-8"⟩

/-- Nobody takes the bytes any more. -/
def receiverGone : IoError := ⟨.brokenPipe, "response body receiver dropped"⟩

/-- A write takes none of the bytes that are left. -/
def writeZero : IoError := ⟨.writeZero, "failed to write whole buffer"⟩

/-- A part of a buffer reaches beyond its end. -/
def rangeOutside (offset length size : Nat) : IoError :=
  ⟨.invalidInput, s!"range {offset}+{length} exceeds buffer of {size} bytes"⟩

/-- A failure of no particular kind. -/
def other (message : String) : IoError := ⟨.other, message⟩

end IoError

end WebMount
