import ChainProjection.Json.Printer
import ChainProjection.Main
import ChainProjection.Metadata.Post
import ChainProjection.Proofs.Projection.Rules
import ChainProjection.Proofs.Store.Tables
import ChainProjection.Proofs.Wire.Event
import ChainProjection.Store.Snapshot
import ChainProjection.Proofs.Projection.Rows
import ChainProjection.Proofs.Forum.Step
import ChainProjection.Proofs.Content.Changes
import ChainProjection.Proofs.Content.Step
import ChainProjection.Proofs.Projection.Block
import ChainProjection.Proofs.Reachable
import ChainProjection.Proofs.Frames
import ChainProjection.Proofs.Keys
import ChainProjection.Proofs.Causes
import ChainProjection.Proofs.Assets
import ChainProjection.Proofs.Readable
import ChainProjection.Proofs.Resumption
import ChainProjection.Proofs.Checks
import ChainProjection.Proofs.Log
import ChainProjection.Proofs.References
import ChainProjection.Proofs.Pins
import ChainProjection.Proofs.Latest
import ChainProjection.Proofs.MediaSizes
import ChainProjection.Proofs.Interleaving
import ChainProjection.Proofs.Failures
import ChainProjection.Proofs.Lifecycles
import ChainProjection.Proofs.Footprints
import ChainProjection.Proofs.Stamps
import ChainProjection.Proofs.BlockNumbers
import ChainProjection.Proofs.Wire.Vocabulary
import ChainProjection.Proofs.Wire.Text
import ChainProjection.Proofs.Store.RoundTrip
import ChainProjection.Proofs.Metadata
import ChainProjection.Proofs.Membership
import ChainProjection.Proofs.Admission
import ChainProjection.Proofs.Post
import ChainProjection.Proofs.Undecodable
import ChainProjection.Proofs.Deletions
import ChainProjection.Proofs.Votes
import ChainProjection.Proofs.Dates
import ChainProjection.Proofs.Hex
import ChainProjection.Proofs.Spellings
import ChainProjection.Proofs.DerivedKeys
import ChainProjection.Proofs.Config.Expansion
import ChainProjection.Proofs.Toml.Lexemes
import ChainProjection.Proofs.Config.Comments
