import SchemaWorkbench.Main
import SchemaWorkbench.Proofs.History.Run
import SchemaWorkbench.Proofs.Interchange.RoundTrip
import SchemaWorkbench.Proofs.History.Zipper
import SchemaWorkbench.Proofs.Session.Commit
import SchemaWorkbench.Proofs.Session.Snapshots
import SchemaWorkbench.Proofs.Session.UndoDepth
import SchemaWorkbench.Proofs.Notation.Segments
import SchemaWorkbench.Proofs.Session.LineByLine
import SchemaWorkbench.Proofs.Interchange.FirstError
import SchemaWorkbench.Proofs.Session.Failure
import SchemaWorkbench.Proofs.Interchange.SavedNotation
import SchemaWorkbench.Proofs.Interchange.Normalisation
import SchemaWorkbench.Proofs.Text.Lowercase
import SchemaWorkbench.Proofs.Text.Pieces
import SchemaWorkbench.Proofs.Notation.Items
import SchemaWorkbench.Proofs.Notation.Description
import SchemaWorkbench.Proofs.History.Capacity
import SchemaWorkbench.Proofs.History.Observers
import SchemaWorkbench.Proofs.Dialogue
import SchemaWorkbench.Proofs.CommandLine.Task
import SchemaWorkbench.Proofs.CommandLine.Line
import SchemaWorkbench.Proofs.CommandLine.Conversation
import SchemaWorkbench.Proofs.CommandLine.Prompt
import SchemaWorkbench.Proofs.CommandLine.Requests
import SchemaWorkbench.Proofs.Notation.Occurrence
import SchemaWorkbench.Proofs.Client.LoadedSchema
import SchemaWorkbench.Proofs.CommandLine.Arguments
import SchemaWorkbench.Proofs.CommandLine.Output
import SchemaWorkbench.Proofs.Notation.Blocks
import SchemaWorkbench.Proofs.Notation.Layout
import SchemaWorkbench.Proofs.Notation.Rewriting
import SchemaWorkbench.Proofs.Schema.Resolution
import SchemaWorkbench.Proofs.Export.Content
import SchemaWorkbench.Proofs.CommandLine.Drop
import SchemaWorkbench.Proofs.Interchange.Alike
import SchemaWorkbench.Proofs.Interchange.LeadingSpace
import SchemaWorkbench.Proofs.Export.TableNames
