import ServletRoutes.Text.NameSet
import ServletRoutes.Text.Quoted
import ServletRoutes.Unicode.Category
import ServletRoutes.Unicode.CaseFold
import ServletRoutes.Document.Fragment
import ServletRoutes.Document.Layout
import ServletRoutes.TypeIndex
import ServletRoutes.Route.Resolution
import ServletRoutes.Filter
import ServletRoutes.ClassFile.Basic
import ServletRoutes.Scan
import ServletRoutes.Config.Reading
import ServletRoutes.Json.Printer
import ServletRoutes.Generate.Run
import ServletRoutes.Main
import ServletRoutes.Proofs.Document.Tag
import ServletRoutes.Proofs.Document.Fragment
import ServletRoutes.Proofs.Document.LineEnding
import ServletRoutes.Proofs.Document.Region
import ServletRoutes.Proofs.Document.Update
import ServletRoutes.Proofs.Document.Revision
import ServletRoutes.Proofs.FileTree.Writing
import ServletRoutes.Proofs.Generate.Run
import ServletRoutes.Proofs.Generate.SecondRun
import ServletRoutes.Proofs.Text.NameSet
import ServletRoutes.Proofs.Text.Lossy
import ServletRoutes.Proofs.TypeIndex
import ServletRoutes.Proofs.Route.Relisting
import ServletRoutes.Proofs.Document.Rendering
import ServletRoutes.Proofs.Generate.Regrouping
import ServletRoutes.Proofs.Generate.Stepwise
import ServletRoutes.Proofs.Generate.Delivery
import ServletRoutes.Proofs.TypeIndex.Search
import ServletRoutes.Proofs.Route.Partition
import ServletRoutes.Proofs.ClassFile.Assembly
import ServletRoutes.Proofs.Artifact.Archive
import ServletRoutes.Proofs.Document.Reading
import ServletRoutes.Proofs.Document.Declaration
import ServletRoutes.Proofs.Annotations.Program
import ServletRoutes.Proofs.Document.ServletName
import ServletRoutes.Proofs.FileTree.FileSet
import ServletRoutes.Proofs.Archive.Inflate
import ServletRoutes.Proofs.Archive.Storing
import ServletRoutes.Proofs.Artifact.Directory
import ServletRoutes.Proofs.Document.Uniform
import ServletRoutes.Proofs.Scan.Workers
import ServletRoutes.Proofs.Document.Element
import ServletRoutes.Proofs.Document.Guarding
import ServletRoutes.Proofs.Generate.Totals
import ServletRoutes.Proofs.Filter.Verdict
import ServletRoutes.Proofs.Text.Counting
import ServletRoutes.Proofs.Document.Confinement
import ServletRoutes.Document.Splicing
import ServletRoutes.Proofs.Document.Section
import ServletRoutes.Proofs.Text.Slice
import ServletRoutes.Proofs.Document.Splicing
import ServletRoutes.Route.Slicing
import ServletRoutes.Proofs.Text.Replacement
import ServletRoutes.Proofs.Route.Convention
import ServletRoutes.Proofs.ClassFile.SourceName
import ServletRoutes.Proofs.ClassFile.Truncation
import ServletRoutes.Proofs.Artifact.Truncation
import ServletRoutes.Proofs.Filter.Anchoring
