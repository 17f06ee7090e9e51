import SvgDrawing.Main
import SvgDrawing.PathData.Session
import SvgDrawing.Proofs.CommandLine.ExitCode
import SvgDrawing.Proofs.Document.Finite
import SvgDrawing.Proofs.Document.Namespace
import SvgDrawing.Proofs.Document.Skipping
import SvgDrawing.Proofs.Element.Locality
import SvgDrawing.Proofs.Element.NestedStyle
import SvgDrawing.Proofs.Element.Policy
import SvgDrawing.Proofs.Element.Polygon
import SvgDrawing.Proofs.Element.Visibility
import SvgDrawing.Proofs.Files.FailedRun
import SvgDrawing.Proofs.Files.SecondRun
import SvgDrawing.Proofs.PathData.Absolute
import SvgDrawing.Proofs.PathData.CommandText
import SvgDrawing.Proofs.PathData.Composition
import SvgDrawing.Proofs.PathData.History
import SvgDrawing.Proofs.PathData.Ignored
import SvgDrawing.Proofs.PathData.SingleNumber
import SvgDrawing.Proofs.PathData.Smooth
import SvgDrawing.Proofs.PathData.Strokes
import SvgDrawing.Proofs.Swift.Comments
import SvgDrawing.Proofs.Swift.DecimalPlaces
import SvgDrawing.Proofs.Swift.Index
import SvgDrawing.Proofs.Swift.NumberForm
import SvgDrawing.Proofs.Swift.Projection
import SvgDrawing.Proofs.Swift.Rendering
import SvgDrawing.Proofs.Swift.Statement
