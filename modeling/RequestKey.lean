import RequestKey.Dispatcher.Config
import RequestKey.Dispatcher.Inference
import RequestKey.Proofs.Bindings.Reading
import RequestKey.Proofs.Dispatcher.Distinction
import RequestKey.Proofs.Dispatcher.Identification
import RequestKey.Proofs.Dispatcher.Inferred
import RequestKey.Proofs.Dispatcher.Sides
import RequestKey.Proofs.Positional.Base
import RequestKey.Proofs.Positional.Parts
import RequestKey.Proofs.Query.FormEncoding
import RequestKey.Proofs.Rule.Names
import RequestKey.Proofs.Template.Substitution
import RequestKey.Proofs.Template.WellFormed
import RequestKey.Proofs.Query.Pieces
import RequestKey.Proofs.Query.Reordering
import RequestKey.Proofs.Dispatcher.OrderIndependence
import RequestKey.Proofs.Dispatcher.PathIndependence
import RequestKey.Proofs.Dispatcher.Halves
import RequestKey.Proofs.Dispatcher.WellFormed
import RequestKey.Proofs.Query.BestEffort
import RequestKey.Proofs.Positional.Variables
import RequestKey.Proofs.Dispatcher.Instantiation
import RequestKey.Proofs.Template.Language
import RequestKey.Proofs.Dispatcher.Configured
import RequestKey.Proofs.Positional.LongestPath
import RequestKey.Proofs.Positional.MoreExamples
import RequestKey.Proofs.Query.Utf8
import RequestKey.Proofs.Query.WholeDecoding
import RequestKey.Proofs.Query.Selection
import RequestKey.Proofs.Template.Opening
import RequestKey.Proofs.Dispatcher.Conditions
import RequestKey.Proofs.Dispatcher.Log
import RequestKey.Proofs.Bindings.Canonical
