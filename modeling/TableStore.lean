import TableStore.Catalog
import TableStore.CommandLine.Command
import TableStore.CommandLine.Run
import TableStore.Config
import TableStore.Csv.Reader
import TableStore.Csv.Writer
import TableStore.Decimal.Shortest
import TableStore.Error
import TableStore.FileSystem.Basic
import TableStore.FileSystem.Path
import TableStore.Http.MediaType
import TableStore.Http.Message
import TableStore.Http.Multipart
import TableStore.Http.Service
import TableStore.Http.Target
import TableStore.Json.Fault
import TableStore.Json.Number
import TableStore.Json.Reader
import TableStore.Json.Skip
import TableStore.Json.Text
import TableStore.Json.Writer
import TableStore.Main
import TableStore.Net.SocketAddress
import TableStore.Query.Execution
import TableStore.Query.Parser
import TableStore.Query.Statement
import TableStore.Query.Token
import TableStore.Store.Basic
import TableStore.Store.Import
import TableStore.Store.Metadata
import TableStore.Store.RowFile
import TableStore.Table
import TableStore.Text.Ascii
import TableStore.Text.Quoted
import TableStore.Text.Unprintable
import TableStore.Text.Utf8
import TableStore.Proofs.Json.Text
import TableStore.Proofs.Catalog
import TableStore.Proofs.Json.Reader
import TableStore.Proofs.Json.Locality
import TableStore.Proofs.FileSystem.Basic
import TableStore.Proofs.FileSystem.Path
import TableStore.Proofs.Store.Codec
import TableStore.Proofs.FileSystem.Names
import TableStore.Proofs.Store.Layout
import TableStore.Proofs.Store.Effects
import TableStore.Proofs.Store.Changes
import TableStore.Proofs.Store.Session
import TableStore.Proofs.Store.Confinement
import TableStore.Proofs.Store.RowFiles
import TableStore.Proofs.Store.RowWrites
import TableStore.Proofs.Store.Imports
import TableStore.Proofs.Store.Success
import TableStore.Proofs.Store.Refinement
import TableStore.Proofs.Store.Torn
import TableStore.Proofs.Store.Independence
import TableStore.Proofs.Csv.RoundTrip
import TableStore.Proofs.Csv.Records
import TableStore.Proofs.Csv.Faults
import TableStore.Proofs.Query.Tokens
import TableStore.Proofs.Query.Grammar
import TableStore.Proofs.Query.SyntaxErrors
import TableStore.Proofs.Query.Resumption
import TableStore.Proofs.Query.Printed
import TableStore.Proofs.Query.Lexing
import TableStore.Proofs.Query.WellFormed
import TableStore.Proofs.Query.Projection
import TableStore.Proofs.Query.Execution
import TableStore.Proofs.Query.Layout
import TableStore.Proofs.Http.Acknowledgement
import TableStore.Proofs.Http.Service
import TableStore.Proofs.Http.Uploads
import TableStore.Proofs.Http.UploadQuery
import TableStore.Proofs.Http.Reimport
import TableStore.Proofs.Http.Rectangular
