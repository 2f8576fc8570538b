import DeskConfig.Main
import DeskConfig.Proofs.Walk.Transparency
import DeskConfig.Proofs.Walk.IncludeLimit
import DeskConfig.Proofs.Markup.Events
import DeskConfig.Proofs.Markup.RoundTrip
import DeskConfig.Proofs.Load.Result
import DeskConfig.Proofs.Markup.Trimming
import DeskConfig.Proofs.Settings.Ranges
import DeskConfig.Proofs.Menus.Binding
import DeskConfig.Proofs.Load.RootMenus
import DeskConfig.Proofs.Load.Bounds
import DeskConfig.Proofs.Menus.InPlace
import DeskConfig.Proofs.Menus.Nesting
import DeskConfig.Proofs.Menus.Shapes
import DeskConfig.Proofs.Load.MenuItems
import DeskConfig.Proofs.Walk.Reordering
import DeskConfig.Proofs.Load.Misplaced
import DeskConfig.Proofs.Walk.FailedInclude
import DeskConfig.Proofs.Load.Keys
import DeskConfig.Proofs.Load.HigherLimit
import DeskConfig.Proofs.Walk.Agenda
import DeskConfig.Proofs.Walk.Coverage
import DeskConfig.Proofs.Load.Commands
import DeskConfig.Proofs.Load.MenuReferences
import DeskConfig.Proofs.Load.RootFile
import DeskConfig.Proofs.Load.Provenance
import DeskConfig.Proofs.Dump.Lossless
import DeskConfig.Proofs.Console.DumpOutput
import DeskConfig.Proofs.Load.LastDeclarations
import DeskConfig.Proofs.Load.Records
import DeskConfig.Proofs.Load.CommandEnds
import DeskConfig.Proofs.Load.Labels
import DeskConfig.Proofs.Markup.Tags
import DeskConfig.Proofs.Markup.Nesting
import DeskConfig.Proofs.Markup.TagLines
import DeskConfig.Proofs.Menus.Appending
import DeskConfig.Proofs.Menus.Heights
import DeskConfig.Proofs.Settings.Desktops
import DeskConfig.Proofs.Menus.FirstMenu
import DeskConfig.Proofs.Walk.NestedCalls
import DeskConfig.Proofs.Load.LineFeeds
import DeskConfig.Proofs.Load.FinalChecks
import DeskConfig.Proofs.Settings.IntegerTypes
import DeskConfig.Proofs.Markup.LineQueries
import DeskConfig.Proofs.Console.Surroundings
