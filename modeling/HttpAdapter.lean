import HttpAdapter.Catalog.Description
import HttpAdapter.Main
import HttpAdapter.Proofs.Catalog.Alias
import HttpAdapter.Proofs.Catalog.Declarations
import HttpAdapter.Proofs.Catalog.Step
import HttpAdapter.Proofs.Catalog.Names
import HttpAdapter.Proofs.Catalog.Linking
import HttpAdapter.Proofs.Catalog.Targets
import HttpAdapter.Proofs.Catalog.Representation
import HttpAdapter.Proofs.Generation.Layout
import HttpAdapter.Proofs.Catalog.Origin
import HttpAdapter.Proofs.Generation.Docstrings
import HttpAdapter.Proofs.Generation.Imports
import HttpAdapter.Proofs.CompiledModule
import HttpAdapter.Proofs.Generation.Routes
import HttpAdapter.Proofs.Generation.Shadowing
import HttpAdapter.Proofs.Settings
import HttpAdapter.Proofs.Catalog.Registration
import HttpAdapter.Proofs.Catalog.LinkFaults
import HttpAdapter.Proofs.Generation.Emission
import HttpAdapter.Proofs.Plugin
import HttpAdapter.Proofs.Catalog.OnePackage
import HttpAdapter.Proofs.Tidying
import HttpAdapter.Proofs.Grammar.Lexing
import HttpAdapter.Proofs.Grammar.Lines
import HttpAdapter.Proofs.Grammar.Blocks
import HttpAdapter.Proofs.Grammar.Names
import HttpAdapter.Proofs.Rendering.Server
import HttpAdapter.Proofs.Rendering.Module
import HttpAdapter.Proofs.ModuleNames
import HttpAdapter.Proofs.Catalog.WellNamed
import HttpAdapter.Proofs.Generation.NullCharacter
import HttpAdapter.Proofs.Generation.Programs
import HttpAdapter.Proofs.Catalog.Linked
import HttpAdapter.Proofs.Catalog.Contents
import HttpAdapter.Proofs.Catalog.Positions
import HttpAdapter.Proofs.Catalog.Exactness
import HttpAdapter.Proofs.Catalog.Agreement
import HttpAdapter.Proofs.Catalog.FileOrder
import HttpAdapter.Proofs.Plugin.Targets
import HttpAdapter.Proofs.Plugin.OutputNames
import HttpAdapter.Proofs.Catalog.Parallel
import HttpAdapter.Proofs.Generation.Blocks
import HttpAdapter.Proofs.Generation.Growth
import HttpAdapter.Proofs.Catalog.Relocation
import HttpAdapter.Proofs.Plugin.ImportPrefix
import HttpAdapter.Proofs.Catalog.Scopes
import HttpAdapter.Proofs.Catalog.FieldPaths
import HttpAdapter.Proofs.Catalog.FileLinking
import HttpAdapter.Proofs.FieldAccess
import HttpAdapter.Proofs.Text.Trim
import HttpAdapter.Proofs.PathPattern
import HttpAdapter.Proofs.Catalog.Probing
import HttpAdapter.Proofs.Comments
import HttpAdapter.Proofs.TidyLayout
import HttpAdapter.Proofs.DottedPath
import HttpAdapter.Proofs.Rendering.MissingEntries
import HttpAdapter.Proofs.Rendering.Unescaping
import HttpAdapter.Proofs.Settings.Writing
