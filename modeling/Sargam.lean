import Sargam.Session
import Sargam.Json.Reader
import Sargam.Proofs.Editing
import Sargam.Proofs.Atomicity
import Sargam.Proofs.Outcome
import Sargam.Proofs.WellFormed
import Sargam.Proofs.RoundTrip
import Sargam.Proofs.Rejections
import Sargam.Proofs.Layout
import Sargam.Proofs.DisplayLine
import Sargam.Proofs.NotePerMatra
import Sargam.Proofs.LineFilling
import Sargam.Proofs.SessionHistory
import Sargam.Proofs.IndependentEdits
import Sargam.Proofs.Console
import Sargam.Proofs.JsonReading
import Sargam.Proofs.LayoutJson
import Sargam.Proofs.Nodes
import Sargam.Proofs.Shortening
import Sargam.Proofs.TableColumns
import Sargam.Proofs.Unmarked
import Sargam.Proofs.Tags
import Sargam.Proofs.HtmlPage
import Sargam.Proofs.Checked.Reading
import Sargam.Proofs.Checked.Grid
import Sargam.Proofs.Checked.Export
import Sargam.Proofs.Checked.Session
import Sargam.Proofs.Drawing
import Sargam.Proofs.Spreading
import Sargam.Proofs.TokenFaults
import Sargam.Proofs.Refilling
import Sargam.Proofs.TaalRules
import Sargam.Proofs.VibhagStarts
import Sargam.Proofs.PageNodes
import Sargam.Proofs.PageTemplate
import Sargam.Proofs.VibhagBoundaries
import Sargam.Proofs.Marks
import Sargam.Proofs.Reports
import Sargam.Proofs.TypedCells
import Sargam.Proofs.DrawingGeometry
