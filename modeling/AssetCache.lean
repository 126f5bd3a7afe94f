import AssetCache.Main
import AssetCache.Rehearsal.Step
import AssetCache.Rehearsal.Terminal
import AssetCache.Proofs.Json.Strings
import AssetCache.Proofs.Json.Numerals
import AssetCache.Proofs.Json.Stored
import AssetCache.Proofs.Program
import AssetCache.Proofs.Fetch.Batch
import AssetCache.Proofs.Fetch.Rounds
import AssetCache.Proofs.Storage.Memory
import AssetCache.Proofs.Worker.Surroundings
import AssetCache.Proofs.Worker.Strict
import AssetCache.Proofs.Worker.Reconcile
import AssetCache.Proofs.Worker.Activation
import AssetCache.Proofs.Manifest.Spelling
import AssetCache.Proofs.Manifest.Difference
import AssetCache.Proofs.Key
import AssetCache.Proofs.Key.Correspondence
import AssetCache.Proofs.Worker.Content
import AssetCache.Proofs.Worker.Deploys
import AssetCache.Proofs.Disk.Tree
import AssetCache.Proofs.Storage.Files
import AssetCache.Proofs.Storage.Keyed
import AssetCache.Proofs.Storage.KeyedFaults
import AssetCache.Proofs.Worker.Serving
import AssetCache.Proofs.Worker.Hits
import AssetCache.Proofs.Worker.Shell
import AssetCache.Proofs.Worker.Provenance
import AssetCache.Proofs.Worker.Record
import AssetCache.Proofs.Worker.Partial
import AssetCache.Proofs.Worker.Turns
import AssetCache.Proofs.Worker.Settling
import AssetCache.Proofs.Worker.Trace
import AssetCache.Proofs.Worker.Overlap
import AssetCache.Proofs.Worker.EntryDocument
import AssetCache.Proofs.Worker.Filling
import AssetCache.Proofs.Worker.Missing
import AssetCache.Proofs.Worker.Difference
import AssetCache.Proofs.Worker.OnDisk
import AssetCache.Proofs.Http.Headers
import AssetCache.Proofs.Log.Lines
import AssetCache.Proofs.CommandLine.Status
import AssetCache.Proofs.Settings.Created
