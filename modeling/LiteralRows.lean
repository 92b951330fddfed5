import LiteralRows.Json.Reader
import LiteralRows.Main
import LiteralRows.Proofs.Materialization
import LiteralRows.Proofs.Source.Rehearsal
import LiteralRows.Proofs.Token.Reading
import LiteralRows.Session
import LiteralRows.Proofs.Catalog.Check
import LiteralRows.Proofs.Sqlite.Undeclared
import LiteralRows.Proofs.Token.Recovery
import LiteralRows.Proofs.Source.FirstRow
import LiteralRows.Proofs.Url.Redaction
import LiteralRows.Proofs.Url.Parameters
import LiteralRows.Proofs.Command.Answer
import LiteralRows.Proofs.Session.Cursors
import LiteralRows.Proofs.Session.Independence
import LiteralRows.Proofs.Source.Connections
import LiteralRows.Proofs.Provision.Spelling
import LiteralRows.Proofs.Catalog.Names
import LiteralRows.Proofs.Token.Escaping
import LiteralRows.Proofs.Token.Scan
import LiteralRows.Proofs.Json.Records
import LiteralRows.Proofs.Source.Standing
import LiteralRows.Proofs.Sqlite.Numbers
import LiteralRows.Proofs.Records.Decoding
import LiteralRows.Proofs.Settings.Loading
