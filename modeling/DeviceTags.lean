import DeviceTags.Text.Quoted
import DeviceTags.Text.Alphanumeric
import DeviceTags.Text.Terminal
import DeviceTags.Number.Shortest
import DeviceTags.Datum
import DeviceTags.Description
import DeviceTags.Token
import DeviceTags.Lookup
import DeviceTags.Audit
import DeviceTags.Cursor
import DeviceTags.Journal
import DeviceTags.Priority
import DeviceTags.Main
import DeviceTags.Scripted
import DeviceTags.HandEdit
import DeviceTags.Proofs.Outcome
import DeviceTags.Proofs.Store.Effect
import DeviceTags.Proofs.Index.Linked
import DeviceTags.Proofs.Index.Linking
import DeviceTags.Proofs.Index.Sound
import DeviceTags.Proofs.Index.Membership
import DeviceTags.Proofs.Index.Rollback
import DeviceTags.Proofs.Store.Aliases
import DeviceTags.Proofs.Tagging
import DeviceTags.Proofs.Attachment
import DeviceTags.Proofs.Index.Progress
import DeviceTags.Proofs.Index.Advance
import DeviceTags.Proofs.Probing
import DeviceTags.Proofs.Searching
import DeviceTags.Proofs.Run
import DeviceTags.Proofs.Index.Audit
import DeviceTags.Proofs.Agreement
import DeviceTags.Proofs.Index.Arrival
import DeviceTags.Proofs.Lookup.Listing
import DeviceTags.Proofs.Atomicity
import DeviceTags.Proofs.Lookup.Candidate
import DeviceTags.Proofs.Lookup.Protocol
import DeviceTags.Proofs.Merging
import DeviceTags.Proofs.Store.View
import DeviceTags.Proofs.Supply
import DeviceTags.Proofs.Store.Revision
import DeviceTags.Proofs.Revising
import DeviceTags.Proofs.Inventory.Declared
import DeviceTags.Proofs.Inventory.Reflection
import DeviceTags.Proofs.Inventory.Pairs
import DeviceTags.Proofs.Inventory.Pass
import DeviceTags.Proofs.Inventory.Winner
import DeviceTags.Proofs.Config.Document
import DeviceTags.Proofs.Config.Loading
import DeviceTags.Proofs.Config.Building
import DeviceTags.Proofs.Lookup.Settled
import DeviceTags.Proofs.Lookup.Declared
import DeviceTags.Proofs.Lookup.Arbitration
import DeviceTags.Proofs.Cli.Query
import DeviceTags.Proofs.Cli.Check
import DeviceTags.Proofs.Cli.Find
import DeviceTags.Proofs.FileTree
import DeviceTags.Proofs.Toml.Tokens
import DeviceTags.Proofs.Toml.Numbers
import DeviceTags.Proofs.Toml.Values
import DeviceTags.Proofs.Toml.Lines
import DeviceTags.Proofs.Toml.Tables
import DeviceTags.Proofs.Toml.Keys
import DeviceTags.Proofs.Toml.Documents
import DeviceTags.Proofs.Config.Schema
import DeviceTags.Proofs.Config.Saving
import DeviceTags.Proofs.Twin.Alike
import DeviceTags.Proofs.Twin.Operations
import DeviceTags.Proofs.Twin.Lookups
import DeviceTags.Proofs.Twin.Inquiry
import DeviceTags.Proofs.Twin.Query
import DeviceTags.Proofs.Cli.Filling
import DeviceTags.Proofs.Settings
import DeviceTags.Proofs.Cli.Listing
import DeviceTags.Proofs.Cli.Ending
import DeviceTags.Proofs.Cli.JsonOutput
import DeviceTags.Proofs.Marks
import DeviceTags.Proofs.Lookup.Conversation
import DeviceTags.Proofs.ProbeOnce
import DeviceTags.Proofs.Inventory.Halting
import DeviceTags.Proofs.Chronicle
import DeviceTags.Proofs.Store.Latest
import DeviceTags.Proofs.Latest
import DeviceTags.Proofs.Inventory.Again
import DeviceTags.Proofs.Inventory.Fresh
import DeviceTags.Proofs.Token
import DeviceTags.Proofs.Index.Correspondence
import DeviceTags.Proofs.Store.Removed
import DeviceTags.Proofs.Lookup.Removal
import DeviceTags.Proofs.Removal
import DeviceTags.Proofs.Lookup.Vanished
import DeviceTags.Proofs.Lookup.Spelling
import DeviceTags.Proofs.Changes
import DeviceTags.Proofs.Changed
import DeviceTags.Proofs.Cursor
import DeviceTags.Proofs.Deletion
import DeviceTags.Proofs.Ledger
import DeviceTags.Proofs.Heads
import DeviceTags.Proofs.Duplicates
import DeviceTags.Proofs.Lookup.Columns
import DeviceTags.Proofs.Commuting
import DeviceTags.Proofs.Priority
import DeviceTags.Proofs.Joining
