import TexWorkspace.Bib.Element
import TexWorkspace.Bib.KeyIndex
import TexWorkspace.Bib.KeyTable
import TexWorkspace.Bib.Record
import TexWorkspace.CommandLine
import TexWorkspace.Files.Rehearsal
import TexWorkspace.Main
import TexWorkspace.Proofs.Bib.Grammar
import TexWorkspace.Proofs.Bib.Lossless
import TexWorkspace.Proofs.Bib.TokenSeams
import TexWorkspace.Proofs.Bib.Discipline
import TexWorkspace.Proofs.Bib.Acceptance
import TexWorkspace.Proofs.Bib.Resynchronization
import TexWorkspace.Proofs.Bib.Draft
import TexWorkspace.Proofs.Bib.Rereading
import TexWorkspace.Proofs.Bib.Steadiness
import TexWorkspace.Proofs.Bib.Independence
import TexWorkspace.Proofs.Bib.Shape.Basic
import TexWorkspace.Proofs.Bib.Shape.Rules
import TexWorkspace.Proofs.Bib.Shape
import TexWorkspace.Proofs.Bib.Views
import TexWorkspace.Proofs.Bib.Construction
import TexWorkspace.Proofs.Bib.Placement
import TexWorkspace.Proofs.Bib.Values
import TexWorkspace.Proofs.Bib.Floating.Basic
import TexWorkspace.Proofs.Bib.Floating.Rules
import TexWorkspace.Proofs.Bib.Floating
import TexWorkspace.Proofs.Json.Grammar
import TexWorkspace.Proofs.Json.Words
import TexWorkspace.Proofs.Json.Skipping
import TexWorkspace.Proofs.Json.Recognition
import TexWorkspace.Proofs.Json.Rereading
import TexWorkspace.Proofs.Bib.IndexCodec
import TexWorkspace.Proofs.Bib.Relexing
import TexWorkspace.Proofs.Bib.KeyForm
import TexWorkspace.Proofs.Bib.StoredIndex
import TexWorkspace.Proofs.Project.Transcript
import TexWorkspace.Proofs.Project.Chronicle
import TexWorkspace.Proofs.Project.FailureModel
import TexWorkspace.Proofs.Project.Registration
import TexWorkspace.Proofs.Files.Following
import TexWorkspace.Proofs.Files.Changes
import TexWorkspace.Proofs.Files.Soundness
import TexWorkspace.Proofs.Project.PartialLayout
import TexWorkspace.Proofs.Project.DiskEffect
import TexWorkspace.Proofs.Project.Repetition
import TexWorkspace.Proofs.Project.Filling
import TexWorkspace.Proofs.Project.TemplateChain
import TexWorkspace.Proofs.Project.CallOrder
import TexWorkspace.Proofs.CommandLine.Arguments
import TexWorkspace.Proofs.CommandLine.NewProject
import TexWorkspace.Proofs.Bib.KeyHistory
import TexWorkspace.Proofs.Bib.FieldLookup
import TexWorkspace.Proofs.Bib.Extent
import TexWorkspace.Proofs.Project.ContentRoots
import TexWorkspace.Proofs.CommandLine.KeyListing
