import TexWorkspace.Project.Layout

set_option autoImplicit false

/-!
The plan of a new project: what has to be done, step by step. Exclusions come after the source
folders, since they are added to a content root that has to be registered first.
-/

namespace TexWorkspace.Project

open Files

structure SourceRoot where
  path : Path
  package : String
  deriving DecidableEq, Repr

inductive Step where
  | sourceRoot (source : SourceRoot)
  | excludeFolder (path : Path)
  | excludeOutput
  deriving DecidableEq, Repr

namespace Step

/-- Whether two steps do the same, whatever the spelling of their paths. -/
def same : Step → Step → Bool
  | .sourceRoot left, .sourceRoot right =>
      left.path.same right.path && left.package == right.package
  | .excludeFolder left, .excludeFolder right => left.same right
  | .excludeOutput, .excludeOutput => true
  | _, _ => false

def describe : Step → String
  | .sourceRoot source =>
      "SourceRoot(SourceRoot \x7b path: " ++ source.path.quoted ++ ", package_prefix: " ++
        Text.quoted source.package ++ " \x7d)"
  | .excludeFolder path => "ExcludeFolder(" ++ path.quoted ++ ")"
  | .excludeOutput => "ExcludeOutput"

end Step

structure Plan where
  root : Path
  sourceRoots : List SourceRoot
  outputDir : Path
  auxiliaryDir : Path
  mainFile : String
  template : String
  deriving DecidableEq, Repr

namespace Plan

def ofLayout (root : Path) (layout : Layout) : Plan :=
  { root
    sourceRoots :=
      ⟨root.join ⟨layout.sourceDir⟩, layout.sourcePackage⟩ ::
        layout.extraSourceDirs.map fun dir => ⟨root.join ⟨dir⟩, ""⟩
    outputDir := root.join ⟨layout.outputDir⟩
    auxiliaryDir := root.join ⟨layout.auxiliaryDir⟩
    mainFile := layout.mainFile
    template := layout.template }

def steps (plan : Plan) : List Step :=
  plan.sourceRoots.map .sourceRoot ++
    [.excludeFolder plan.outputDir, .excludeFolder plan.auxiliaryDir, .excludeOutput]

def mainFileIn (plan : Plan) (sourceRoot : Path) : Path :=
  sourceRoot.join ⟨plan.mainFile⟩

/-- Whether two plans are the same, whatever the spelling of their paths. -/
def same (left right : Plan) : Bool :=
  left.root.same right.root &&
    left.sourceRoots.length == right.sourceRoots.length &&
    (left.sourceRoots.zip right.sourceRoots).all (fun (here, there) =>
      here.path.same there.path && here.package == there.package) &&
    left.outputDir.same right.outputDir && left.auxiliaryDir.same right.auxiliaryDir &&
    left.mainFile == right.mainFile && left.template == right.template

end Plan

end TexWorkspace.Project
