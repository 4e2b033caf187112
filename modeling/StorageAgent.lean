import StorageAgent.Main
import StorageAgent.Pool
import StorageAgent.Proofs.Client.Attempts
import StorageAgent.Proofs.CommandLine.Exit
import StorageAgent.Proofs.Confirmation.Expiry
import StorageAgent.Proofs.Confirmation.Noticed
import StorageAgent.Proofs.Confirmation.Lesser
import StorageAgent.Proofs.Confirmation.Processed
import StorageAgent.Proofs.Confirmation.Report
import StorageAgent.Proofs.Endpoint.Legible
import StorageAgent.Proofs.Endpoint.LostResponse
import StorageAgent.Proofs.Envelope.Signed
import StorageAgent.Proofs.Payload.RoundTrip
import StorageAgent.Proofs.Backoff.Surfaced
import StorageAgent.Proofs.Endpoint.Resent
import StorageAgent.Proofs.Confirmation.Decisive
import StorageAgent.Proofs.Pool.Lockless
import StorageAgent.Proofs.Pool.Tasks
import StorageAgent.Proofs.Pool.Schedules
import StorageAgent.Proofs.Pool.Turns
import StorageAgent.Proofs.Client.Converted
import StorageAgent.Proofs.Address.Bump
import StorageAgent.Proofs.Address.Separation
import StorageAgent.Proofs.Account.Bitmap
import StorageAgent.Proofs.Account.StoredRequest
import StorageAgent.Proofs.Envelope.Privileges
import StorageAgent.Proofs.Json.Arrays
import StorageAgent.Proofs.Json.Limits
import StorageAgent.Proofs.Text.Utf8
import StorageAgent.Proofs.Json.Written
import StorageAgent.Proofs.Key.KeypairFile
import StorageAgent.Proofs.Payload.Names
import StorageAgent.Proofs.Envelope.Size
import StorageAgent.Proofs.Encoding.Base58
import StorageAgent.Proofs.Settings.Program
import StorageAgent.Proofs.Client.Accounts
import StorageAgent.Proofs.Backoff.Delays
import StorageAgent.Proofs.Json.Bodies
