import TexWorkspace.Json.Printer
import TexWorkspace.Path

set_option autoImplicit false

/-!
The model of a module: its content roots with their source and excluded folders. There is one entry
for each root, whatever the spelling of its path.
-/

namespace TexWorkspace.Project

structure SourceFolder where
  path : Path
  isTest : Bool
  package : String
  deriving DecidableEq, Repr

structure ContentEntry where
  root : Path
  sourceFolders : List SourceFolder := []
  excludeFolders : List Path := []
  deriving DecidableEq, Repr

namespace ContentEntry

def addSource (folder : SourceFolder) (entry : ContentEntry) : ContentEntry :=
  { entry with sourceFolders := entry.sourceFolders ++ [folder] }

/-- Registers a folder to be left out. -/
def addExclude (path : Path) (entry : ContentEntry) : ContentEntry :=
  { entry with excludeFolders := entry.excludeFolders ++ [path] }

/-- Whether a path lies in a folder that is left out. -/
def isExcluded (entry : ContentEntry) (path : Path) : Bool :=
  entry.excludeFolders.any path.startsWith

def toJson (entry : ContentEntry) : Json.Value :=
  .object
    [("root", .string entry.root.text),
      ("source_folders", .list (entry.sourceFolders.map fun folder =>
        .object
          [("path", .string folder.path.text), ("is_test", .bool folder.isTest),
            ("package_prefix", .string folder.package)])),
      ("exclude_folders", .list (entry.excludeFolders.map fun path => .string path.text))]

end ContentEntry

structure RootModel where
  moduleName : String
  contentEntries : List ContentEntry := []
  excludeOutput : Bool := false
  deriving DecidableEq, Repr

/-- Changes the entry of a root; a new one is appended if there is none. -/
def updateEntry (root : Path) (change : ContentEntry → ContentEntry) :
    List ContentEntry → List ContentEntry
  | [] => [change { root }]
  | entry :: rest =>
      if entry.root.same root then change entry :: rest
      else entry :: updateEntry root change rest

namespace RootModel

def entry? (model : RootModel) (root : Path) : Option ContentEntry :=
  model.contentEntries.find? fun entry => entry.root.same root

def update (model : RootModel) (root : Path) (change : ContentEntry → ContentEntry) : RootModel :=
  { model with contentEntries := updateEntry root change model.contentEntries }

/-- Adds an entry for a root, unless there is one. -/
def addEntry (model : RootModel) (root : Path) : RootModel :=
  model.update root id

def setExcludeOutput (model : RootModel) (exclude : Bool) : RootModel :=
  { model with excludeOutput := exclude }

def toJson (model : RootModel) : Json.Value :=
  .object
    [("module_name", .string model.moduleName),
      ("content_entries", .list (model.contentEntries.map ContentEntry.toJson)),
      ("exclude_output", .bool model.excludeOutput)]

def print (model : RootModel) : String :=
  model.toJson.pretty

end RootModel

end TexWorkspace.Project
