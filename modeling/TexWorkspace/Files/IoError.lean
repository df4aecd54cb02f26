set_option autoImplicit false

/-!
Errors of a file system: what kind of thing went wrong, and its wording.
-/

namespace TexWorkspace.Files

inductive IoErrorKind where
  | notFound
  | permissionDenied
  | alreadyExists
  | notADirectory
  | isADirectory
  | invalidName
  | linkLoop
  | invalidInput
  | invalidData
  | other
  deriving DecidableEq, Repr

structure IoError where
  kind : IoErrorKind
  message : String
  deriving DecidableEq, Repr

namespace IoError

def notFound : IoError := ⟨.notFound, "No such file or directory (os error 2)"⟩

def alreadyExists : IoError := ⟨.alreadyExists, "File exists (os error 17)"⟩

def notADirectory : IoError := ⟨.notADirectory, "Not a directory (os error 20)"⟩

def isADirectory : IoError := ⟨.isADirectory, "Is a directory (os error 21)"⟩

/-- A name, or the whole path, is too long. -/
def nameTooLong : IoError := ⟨.invalidName, "File name too long (os error 36)"⟩

def tooManyLinks : IoError :=
  ⟨.linkLoop, "Too many levels of symbolic links (os error 40)"⟩

/-- The path holds a character that no path may hold. -/
def nulInPath : IoError := ⟨.invalidInput, "file name contained an unexpected NUL byte"⟩

def notText : IoError := ⟨.invalidData, "stream did not contain valid UTF-8"⟩

/-- No part of a path could be made. -/
def noTree : IoError := ⟨.other, "failed to create whole tree"⟩

end IoError

end TexWorkspace.Files
