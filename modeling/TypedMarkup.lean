import TypedMarkup.Main
import TypedMarkup.Conversion.Live
import TypedMarkup.Timing
import TypedMarkup.Proofs.Store.Moves
import TypedMarkup.Proofs.Store.Run
import TypedMarkup.Proofs.Entries
import TypedMarkup.Proofs.Registry.Classes
import TypedMarkup.Proofs.Text.Blank
import TypedMarkup.Proofs.Conversion.Output
import TypedMarkup.Proofs.Position
import TypedMarkup.Proofs.Conversion.Survivors
import TypedMarkup.Proofs.Conversion.Correspondence
import TypedMarkup.Proofs.Conversion.Instances
import TypedMarkup.Proofs.Store.Forest
import TypedMarkup.Proofs.Store.Growth
import TypedMarkup.Proofs.Conversion.Live
import TypedMarkup.Proofs.Conversion.NormalForm
import TypedMarkup.Proofs.Text.Utf8
import TypedMarkup.Proofs.Double
import TypedMarkup.Proofs.Numeral
import TypedMarkup.Proofs.Value
import TypedMarkup.Proofs.Settings.Merge
import TypedMarkup.Proofs.Settings.Tables
import TypedMarkup.Proofs.Settings.Nested
import TypedMarkup.Proofs.Settings.Ways
import TypedMarkup.Proofs.Settings.Paths
import TypedMarkup.Proofs.Json.Token
import TypedMarkup.Proofs.Json.RoundTrip
import TypedMarkup.Proofs.Files
import TypedMarkup.Proofs.Settings.RoundTrip
import TypedMarkup.Proofs.Settings.Layers
import TypedMarkup.Proofs.Text.WellFormed
import TypedMarkup.Proofs.Markup.Decoding
import TypedMarkup.Proofs.Registry.Additions
import TypedMarkup.Proofs.Registry.History
import TypedMarkup.Proofs.Conversion.Agreement
import TypedMarkup.Proofs.Conversion.Untyped
import TypedMarkup.Proofs.Conversion.Visited
import TypedMarkup.Proofs.Conversion.Failures
import TypedMarkup.Proofs.Conversion.Fragments
import TypedMarkup.Proofs.Conversion.LeftOut
import TypedMarkup.Proofs.Outline
import TypedMarkup.Proofs.Outline.Indentation
import TypedMarkup.Proofs.Outline.LineBreaks
import TypedMarkup.Proofs.Logging.Setup
import TypedMarkup.Proofs.Conversion.Calls
import TypedMarkup.Proofs.Conversion.LiveSearch
import TypedMarkup.Proofs.Conversion.Places
import TypedMarkup.Proofs.Store.Siblings
import TypedMarkup.Proofs.Store.Descent
import TypedMarkup.Proofs.Store.DocumentOrder
import TypedMarkup.Proofs.Store.FlatText
import TypedMarkup.Proofs.Store.Content
import TypedMarkup.Proofs.Attributes.Removal
import TypedMarkup.Proofs.Registry.Reverse
import TypedMarkup.Proofs.Conversion.AttributeMap
import TypedMarkup.Proofs.Conversion.Bodies
import TypedMarkup.Proofs.Text.Words
import TypedMarkup.Proofs.Store.Bodies
import TypedMarkup.Proofs.Conversion.LiveElement
import TypedMarkup.Proofs.Conversion.ClassNames
import TypedMarkup.Proofs.Timing
import TypedMarkup.Proofs.Conversion.Spelling
