import PostalRegions.Acquisition.Cache
import PostalRegions.Acquisition.Merging
import PostalRegions.Acquisition.Run
import PostalRegions.Acquisition.State
import PostalRegions.Archive.Bytes
import PostalRegions.Archive.Checksum
import PostalRegions.Archive.CodePage437
import PostalRegions.Archive.Content
import PostalRegions.Archive.Directory
import PostalRegions.Archive.Inflate
import PostalRegions.Calendar.Date
import PostalRegions.Calendar.Instant
import PostalRegions.Calendar.Rfc3339
import PostalRegions.CommandLine.Arguments
import PostalRegions.CommandLine.Run
import PostalRegions.CommandLine.WorkingFiles
import PostalRegions.Confidence.Basic
import PostalRegions.Confidence.Float
import PostalRegions.Confidence.Rational
import PostalRegions.Configuration.Document
import PostalRegions.Configuration.Fields
import PostalRegions.Configuration.Loading
import PostalRegions.Configuration.Settings
import PostalRegions.Country
import PostalRegions.Dataset.Basic
import PostalRegions.Dataset.Generation
import PostalRegions.Dataset.Import
import PostalRegions.Dataset.Rebuild
import PostalRegions.Decimal.Fixed
import PostalRegions.Decimal.Literal
import PostalRegions.Delimited.Column
import PostalRegions.Delimited.Dialect
import PostalRegions.Delimited.Record
import PostalRegions.Digest.Sha256
import PostalRegions.Entry.Filing
import PostalRegions.Entry.Key
import PostalRegions.Entry.Table
import PostalRegions.Estimate.Label
import PostalRegions.Estimate.Sheet
import PostalRegions.Http.Client
import PostalRegions.Http.Document
import PostalRegions.Http.Query
import PostalRegions.Http.Router
import PostalRegions.Lookup.Approximation
import PostalRegions.Lookup.Plurality
import PostalRegions.Lookup.PrefixIndex
import PostalRegions.Lookup.Tables
import PostalRegions.Main
import PostalRegions.Postal.Key
import PostalRegions.Postal.Pattern
import PostalRegions.Postal.Registry
import PostalRegions.Proofs.Acquisition.Caching
import PostalRegions.Proofs.Acquisition.Clock
import PostalRegions.Proofs.Acquisition.Deadline
import PostalRegions.Proofs.Acquisition.Files
import PostalRegions.Proofs.Acquisition.Filing
import PostalRegions.Proofs.Acquisition.Guessing
import PostalRegions.Proofs.Acquisition.Isolation
import PostalRegions.Proofs.Acquisition.Loading
import PostalRegions.Proofs.Acquisition.Precedence
import PostalRegions.Proofs.Acquisition.Provenance
import PostalRegions.Proofs.Acquisition.Steps
import PostalRegions.Proofs.Acquisition.Visits
import PostalRegions.Proofs.Calendar.Rfc3339
import PostalRegions.Proofs.Confidence.UnitRange
import PostalRegions.Proofs.Dataset.Confidences
import PostalRegions.Proofs.Dataset.Decision
import PostalRegions.Proofs.Dataset.Import
import PostalRegions.Proofs.Dataset.Importing
import PostalRegions.Proofs.Dataset.Overlap
import PostalRegions.Proofs.Dataset.Phases
import PostalRegions.Proofs.Dataset.Rebuild
import PostalRegions.Proofs.Dataset.Restart
import PostalRegions.Proofs.Dataset.Soundness
import PostalRegions.Proofs.Dataset.Staleness
import PostalRegions.Proofs.Delimited.Detection
import PostalRegions.Proofs.Delimited.PlainTables
import PostalRegions.Proofs.Delimited.Writing
import PostalRegions.Proofs.Entry.Filing
import PostalRegions.Proofs.Entry.Listing
import PostalRegions.Proofs.Estimate.Findability
import PostalRegions.Proofs.Estimate.Reading
import PostalRegions.Proofs.Lookup.Caps
import PostalRegions.Proofs.Lookup.Certainty
import PostalRegions.Proofs.Lookup.Confidences
import PostalRegions.Proofs.Lookup.Evidence
import PostalRegions.Proofs.Lookup.Findability
import PostalRegions.Proofs.Lookup.Neighbours
import PostalRegions.Proofs.Lookup.Nesting
import PostalRegions.Proofs.Lookup.Plurality
import PostalRegions.Proofs.Lookup.Scan
import PostalRegions.Proofs.Lookup.Spelling
import PostalRegions.Proofs.Postal.Canonical
import PostalRegions.Proofs.Postal.Courses
import PostalRegions.Proofs.Postal.Spelling
import PostalRegions.Proofs.Postal.Stability
import PostalRegions.Proofs.Region.Nesting
import PostalRegions.Proofs.Snapshot.Facts
import PostalRegions.Proofs.Snapshot.Reading
import PostalRegions.Proofs.Snapshot.RoundTrip
import PostalRegions.Proofs.Snapshot.Soundness
import PostalRegions.Proofs.Snapshot.Staging
import PostalRegions.Proofs.Snapshot.Writing
import PostalRegions.Proofs.Source.CountryOfAddress
import PostalRegions.Proofs.Source.Fingerprint
import PostalRegions.Proofs.Source.LeadingLines
import PostalRegions.Proofs.Source.Links
import PostalRegions.Proofs.Source.PlainSheets
import PostalRegions.Proofs.Source.QuotedSheets
import PostalRegions.Proofs.Source.Reading
import PostalRegions.Proofs.Source.VersionColumns
import PostalRegions.Proofs.Storage.Contents
import PostalRegions.Proofs.Storage.Files
import PostalRegions.Proofs.Text.Blanks
import PostalRegions.Proofs.Text.Capitals
import PostalRegions.Proofs.Text.Encoding
import PostalRegions.Proofs.Text.Lines
import PostalRegions.Proofs.Text.Utf8
import PostalRegions.Region.Code
import PostalRegions.Region.Level
import PostalRegions.Snapshot.Database
import PostalRegions.Snapshot.Editing
import PostalRegions.Snapshot.File
import PostalRegions.Snapshot.Filling
import PostalRegions.Snapshot.Metadata
import PostalRegions.Snapshot.Pages
import PostalRegions.Snapshot.Store
import PostalRegions.Source.Address
import PostalRegions.Source.Failure
import PostalRegions.Source.Fetcher
import PostalRegions.Source.Fingerprint
import PostalRegions.Source.Listing
import PostalRegions.Source.RegionSheet
import PostalRegions.Storage.Directory
import PostalRegions.Storage.Path
import PostalRegions.Text.Blank
import PostalRegions.Text.CodeRange
import PostalRegions.Text.DecimalDigit
import PostalRegions.Text.Encoding
import PostalRegions.Text.Lines
import PostalRegions.Text.Numeral
import PostalRegions.Text.Upper
import PostalRegions.Toml.Lexeme
import PostalRegions.Toml.Number
import PostalRegions.Toml.Reading
import PostalRegions.Toml.Table
