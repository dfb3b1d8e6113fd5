import Routewright.Text.Blank
import Routewright.Text.Letters
import Routewright.Text.Lowercase
import Routewright.Text.Split
import Routewright.Text.Utf8
import Routewright.Dict
import Routewright.Go.Manifest
import Routewright.Go.Declaration
import Routewright.Handler
import Routewright.Failure
import Routewright.Doc.Decorator
import Routewright.Json.Reader
import Routewright.Files.Tree
import Routewright.Doc.Comment
import Routewright.Doc.Update
import Routewright.Server.Update
import Routewright.Program.Source
import Routewright.Go.Token
import Routewright.Go.DocComment
import Routewright.Go.FileParser
import Routewright.Project.GeneralInfo
import Routewright.Project.Loading
import Routewright.CommandLine.Reply
import Routewright.Main
import Routewright.Project.Registration
import Routewright.Proofs.Dict
import Routewright.Proofs.Except
import Routewright.Proofs.Server.History
import Routewright.Proofs.Doc.Recognition
import Routewright.Proofs.Server.Assembly
import Routewright.Proofs.Project.Entry
import Routewright.Proofs.Project.Report
import Routewright.Proofs.Build.Pipeline
import Routewright.Proofs.Go.Execution
import Routewright.Proofs.Server.Verification
import Routewright.Proofs.Server.FailFast
import Routewright.Proofs.Server.Admission
import Routewright.Proofs.Project.Offer
import Routewright.Proofs.Program.ImportBlock
import Routewright.Proofs.Project.Independence
import Routewright.Proofs.Build.Isolation
import Routewright.Proofs.Doc.Roundtrip
import Routewright.Proofs.Server.RouteTable
import Routewright.Proofs.Doc.Attributes
import Routewright.Proofs.Doc.Security
import Routewright.Proofs.Go.Quoting
import Routewright.Proofs.Program.ImportTable
import Routewright.Proofs.Program.Usage
import Routewright.Proofs.Server.Acceptance
import Routewright.Proofs.Server.Coverage
import Routewright.Proofs.Go.Names
import Routewright.Proofs.Program.Names
import Routewright.Proofs.Doc.Decorators
import Routewright.Proofs.Doc.Arguments
import Routewright.Proofs.Doc.Placement
import Routewright.Proofs.Project.Reference
import Routewright.Proofs.Server.Patterns
import Routewright.Proofs.Go.Denotation
import Routewright.Proofs.Doc.Interleaving
import Routewright.Proofs.Project.Contents
import Routewright.Proofs.Project.Failures
import Routewright.Proofs.Doc.Responses
import Routewright.Proofs.Server.Keys
import Routewright.Proofs.Server.Handout
import Routewright.Proofs.Program.ImportGroups
import Routewright.Proofs.Doc.Refusals
import Routewright.Proofs.Project.Effect
import Routewright.Proofs.Server.Redeclaration
import Routewright.Proofs.Doc.Dialects
import Routewright.Proofs.Doc.Locations
import Routewright.Proofs.Doc.Descriptions
import Routewright.Proofs.Text.Digits
import Routewright.Proofs.Doc.StatusCodes
import Routewright.Proofs.Text.Lowercase
import Routewright.Proofs.Doc.Wellformedness
import Routewright.Proofs.Text.Utf8
import Routewright.Proofs.Doc.Markdown
import Routewright.Proofs.Go.ModulePath
import Routewright.Proofs.Build.VersionGate
import Routewright.Proofs.Project.ImportPaths
import Routewright.Proofs.Go.Documentation
import Routewright.Proofs.Text.Fields
