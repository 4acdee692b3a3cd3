import ChartValues.Host.State
import ChartValues.Main
import ChartValues.Proofs.Docs.Failure
import ChartValues.Proofs.Page.Marks
import ChartValues.Proofs.Parameter.BelowBanner
import ChartValues.Proofs.Parameter.Insertion
import ChartValues.Proofs.Parameter.Layout
import ChartValues.Proofs.Parameter.Outline
import ChartValues.Proofs.Parameter.Overlap
import ChartValues.Proofs.Line.Minima
import ChartValues.Proofs.Docs.Success
import ChartValues.Proofs.Line.Joined
import ChartValues.Proofs.Parameter.Encodings
import ChartValues.Proofs.Line.Grammar
import ChartValues.Proofs.Line.Description
import ChartValues.Proofs.Page.Row
import ChartValues.Proofs.Line.Concatenation
import ChartValues.Proofs.Parameter.EntryOrder
import ChartValues.Proofs.Parameter.WellFormed
import ChartValues.Proofs.Value.Legible
import ChartValues.Proofs.Parameter.Rounds
