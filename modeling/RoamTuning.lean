import RoamTuning.Attribute
import RoamTuning.Band
import RoamTuning.Band.OfValue
import RoamTuning.Binary64
import RoamTuning.Binary64.Decimal
import RoamTuning.Control.Call
import RoamTuning.Control.Objects
import RoamTuning.Control.Report
import RoamTuning.Control.Route
import RoamTuning.Control.Serve
import RoamTuning.Defaults
import RoamTuning.Defaults.Source
import RoamTuning.Json
import RoamTuning.Json.Document
import RoamTuning.Json.Encoding
import RoamTuning.Json.Writing
import RoamTuning.Logged
import RoamTuning.Numeral
import RoamTuning.Numeral.Tidied
import RoamTuning.Outcome
import RoamTuning.Override
import RoamTuning.Override.Grammar
import RoamTuning.Override.Pairs
import RoamTuning.ParamSet
import RoamTuning.ParamSet.Document
import RoamTuning.ParamSet.Domain
import RoamTuning.ParamSet.Members
import RoamTuning.ParamSet.Object
import RoamTuning.Proofs.Commits
import RoamTuning.Proofs.Contention
import RoamTuning.Proofs.Displaying
import RoamTuning.Proofs.DistinctKeys
import RoamTuning.Proofs.Divisions
import RoamTuning.Proofs.Edits
import RoamTuning.Proofs.Frame
import RoamTuning.Proofs.GivenSets
import RoamTuning.Proofs.Grammar
import RoamTuning.Proofs.Harmless
import RoamTuning.Proofs.Interleaving
import RoamTuning.Proofs.Invariants
import RoamTuning.Proofs.Journal
import RoamTuning.Proofs.Language
import RoamTuning.Proofs.Loading
import RoamTuning.Proofs.Lookups
import RoamTuning.Proofs.Meaning
import RoamTuning.Proofs.Merging
import RoamTuning.Proofs.Messages
import RoamTuning.Proofs.Numerals
import RoamTuning.Proofs.Overlay
import RoamTuning.Proofs.Overtaking
import RoamTuning.Proofs.PairTables
import RoamTuning.Proofs.Pieces
import RoamTuning.Proofs.PlainNumerals
import RoamTuning.Proofs.Provided
import RoamTuning.Proofs.Readers
import RoamTuning.Proofs.Rendering
import RoamTuning.Proofs.Reordering
import RoamTuning.Proofs.Resets
import RoamTuning.Proofs.Retries
import RoamTuning.Proofs.RoundTrip
import RoamTuning.Proofs.Scores
import RoamTuning.Proofs.Serving
import RoamTuning.Proofs.Sessions
import RoamTuning.Proofs.SetHeap
import RoamTuning.Proofs.SharedSettings
import RoamTuning.Proofs.Snapshots
import RoamTuning.Proofs.Spellings
import RoamTuning.Proofs.Thresholds
import RoamTuning.Proofs.Variables
import RoamTuning.Proofs.Verdicts
import RoamTuning.Proofs.Violations
import RoamTuning.Proofs.Writes
import RoamTuning.Quantity
import RoamTuning.Settings
import RoamTuning.Store
import RoamTuning.Store.Contention
import RoamTuning.Store.History
import RoamTuning.Store.Objects
import RoamTuning.Store.Readings
import RoamTuning.Store.Writers
import RoamTuning.Table
import RoamTuning.Text.Case
import RoamTuning.Text.CaseTable
import RoamTuning.Text.Characters
import RoamTuning.Text.Pieces
import RoamTuning.Text.Printable
import RoamTuning.Value
import RoamTuning.Value.Conversion
import RoamTuning.Value.Decoding
import RoamTuning.Value.Equality
import RoamTuning.Value.Names
import RoamTuning.Value.Order
import RoamTuning.Weights
import RoamTuning.Weights.OfValue
