import DirectoryLogin.Arithmetic
import DirectoryLogin.Client.Opening
import DirectoryLogin.Client.Operation
import DirectoryLogin.Command.Arguments
import DirectoryLogin.Command.EnvFile
import DirectoryLogin.Command.Launch
import DirectoryLogin.Command.Report
import DirectoryLogin.Config.Decoding
import DirectoryLogin.Config.Encoding
import DirectoryLogin.Config.Environment
import DirectoryLogin.Config.Settings
import DirectoryLogin.Config.Validation
import DirectoryLogin.Curve
import DirectoryLogin.Der.Certificate
import DirectoryLogin.Der.Element
import DirectoryLogin.Der.Key
import DirectoryLogin.Der.Names
import DirectoryLogin.Der.Signature
import DirectoryLogin.Digest.Sha2
import DirectoryLogin.Directory.Entry
import DirectoryLogin.Directory.Error
import DirectoryLogin.Directory.Session
import DirectoryLogin.Document.Value
import DirectoryLogin.Dump
import DirectoryLogin.Files
import DirectoryLogin.Filter
import DirectoryLogin.Json.Parser
import DirectoryLogin.Json.Printer
import DirectoryLogin.Log
import DirectoryLogin.Main
import DirectoryLogin.Pem.Base64
import DirectoryLogin.Pem.Section
import DirectoryLogin.Proofs.Abandonment
import DirectoryLogin.Proofs.Addressing
import DirectoryLogin.Proofs.Answers
import DirectoryLogin.Proofs.Attributes
import DirectoryLogin.Proofs.Authentication
import DirectoryLogin.Proofs.Checks
import DirectoryLogin.Proofs.Classification
import DirectoryLogin.Proofs.Collecting
import DirectoryLogin.Proofs.Compact
import DirectoryLogin.Proofs.Course
import DirectoryLogin.Proofs.Delivery
import DirectoryLogin.Proofs.Discipline
import DirectoryLogin.Proofs.Disclosure
import DirectoryLogin.Proofs.Downgrade
import DirectoryLogin.Proofs.Environment
import DirectoryLogin.Proofs.Exchanges
import DirectoryLogin.Proofs.Failover
import DirectoryLogin.Proofs.Grammar
import DirectoryLogin.Proofs.Groups
import DirectoryLogin.Proofs.Injection
import DirectoryLogin.Proofs.Listing
import DirectoryLogin.Proofs.Logging
import DirectoryLogin.Proofs.Naming
import DirectoryLogin.Proofs.Opening
import DirectoryLogin.Proofs.Operation
import DirectoryLogin.Proofs.Passwords
import DirectoryLogin.Proofs.Pieces
import DirectoryLogin.Proofs.Plan
import DirectoryLogin.Proofs.Prediction
import DirectoryLogin.Proofs.Presentation
import DirectoryLogin.Proofs.Provision
import DirectoryLogin.Proofs.Release
import DirectoryLogin.Proofs.Reporting
import DirectoryLogin.Proofs.Resolution
import DirectoryLogin.Proofs.Respelling
import DirectoryLogin.Proofs.Restoration
import DirectoryLogin.Proofs.RoundTrip
import DirectoryLogin.Proofs.Searching
import DirectoryLogin.Proofs.Secrecy
import DirectoryLogin.Proofs.Sections
import DirectoryLogin.Proofs.Stage
import DirectoryLogin.Proofs.Target
import DirectoryLogin.Proofs.Validity
import DirectoryLogin.Scripted.Directory
import DirectoryLogin.Server.Address
import DirectoryLogin.Session.Connection
import DirectoryLogin.Session.Program
import DirectoryLogin.Session.World
import DirectoryLogin.Text.Alphanumeric
import DirectoryLogin.Text.Cut
import DirectoryLogin.Text.Octets
import DirectoryLogin.Text.Quoted
import DirectoryLogin.Toml.Moment
import DirectoryLogin.Toml.Number
import DirectoryLogin.Toml.Parser
import DirectoryLogin.Toml.Quoted
import DirectoryLogin.Toml.Table
import DirectoryLogin.Transport.Fault
import DirectoryLogin.Transport.Material
import DirectoryLogin.Transport.Mode
import DirectoryLogin.Wire.Link
import DirectoryLogin.Wire.Protocol
import DirectoryLogin.Wire.Trust
