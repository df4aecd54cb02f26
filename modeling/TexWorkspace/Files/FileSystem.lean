import TexWorkspace.Files.Disk

set_option autoImplicit false

/-!
What is asked of a file system to lay out a project: four calls, whose answers may depend on
everything that happened before. A disk answers them; so does anything else that keeps to the
interface.
-/

namespace TexWorkspace.Files

/-- The calls of a file system, made in `m`. -/
structure FileSystem (m : Type → Type) where
  createDirectories : Path → m (Except IoError Unit)
  findDirectory : Path → m (Option Path)
  createFile : Path → m (Except IoError Unit)
  writeFile : Path → ByteArray → m (Except IoError Unit)

/-- Runs a change of the disk that may fail; a failed change is none. -/
def Disk.attempt (change : Disk → Except IoError Disk) : StateM Disk (Except IoError Unit) :=
  fun disk =>
    match change disk with
    | .ok changed => (.ok (), changed)
    | .error error => (.error error, disk)

def Disk.fileSystem : FileSystem (StateM Disk) where
  createDirectories path := fun disk => disk.createDirectories path
  findDirectory path := fun disk => (disk.findDirectory? path, disk)
  createFile path := Disk.attempt (·.createFile path)
  writeFile path content := Disk.attempt (·.writeFile path content)

def FileSystem.lift {m n : Type → Type} (move : ∀ {α : Type}, m α → n α) (system : FileSystem m) :
    FileSystem n where
  createDirectories path := move (system.createDirectories path)
  findDirectory path := move (system.findDirectory path)
  createFile path := move (system.createFile path)
  writeFile path content := move (system.writeFile path content)

inductive Call where
  | createDirectories (path : Path)
  | findDirectory (path : Path)
  | createFile (path : Path)
  | writeFile (path : Path) (content : ByteArray)

def FileSystem.recorded {m : Type → Type} [Monad m] (system : FileSystem m) :
    FileSystem (StateT (List Call) m) where
  createDirectories path := fun calls => do
    return (← system.createDirectories path, calls ++ [.createDirectories path])
  findDirectory path := fun calls => do
    return (← system.findDirectory path, calls ++ [.findDirectory path])
  createFile path := fun calls => do
    return (← system.createFile path, calls ++ [.createFile path])
  writeFile path content := fun calls => do
    return (← system.writeFile path content, calls ++ [.writeFile path content])

end TexWorkspace.Files
