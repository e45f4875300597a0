import Credential.Bytes
import Credential.Calendar
import Credential.Cipher.Aes
import Credential.Cipher.Algorithm
import Credential.Cipher.Block
import Credential.Cipher.Decrypt
import Credential.Cipher.Des
import Credential.Cipher.Error
import Credential.Cipher.Mode
import Credential.Cipher.Padding
import Credential.Cipher.Rc4
import Credential.Command.Arguments
import Credential.Command.Report
import Credential.Command.Request
import Credential.Command.Run
import Credential.Der.Error
import Credential.Der.ObjectIdentifier
import Credential.Der.Reader
import Credential.Der.Tag
import Credential.Der.Writer
import Credential.Digest.Md5
import Credential.Digest.Message
import Credential.Digest.Sha1
import Credential.Host.Directory
import Credential.Host.File
import Credential.Json.Reader
import Credential.Json.Record
import Credential.Json.Value
import Credential.Json.Writer
import Credential.Key.Algorithm
import Credential.Key.Decode
import Credential.Key.Dsa
import Credential.Key.EncryptedPkcs8
import Credential.Key.Error
import Credential.Key.Format
import Credential.Key.Info
import Credential.Key.Info.Json
import Credential.Key.Kind
import Credential.Key.Legacy.Cipher
import Credential.Key.Legacy.Decrypt
import Credential.Key.Legacy.DekInfo
import Credential.Key.Modular
import Credential.Key.Pbe.Derivation
import Credential.Key.Pbe.Scheme
import Credential.Key.Pkcs1
import Credential.Key.Pkcs8
import Credential.Key.Policy
import Credential.Key.PrivateKey
import Credential.Key.Rsa
import Credential.Key.Specification
import Credential.Key.Structure
import Credential.Main
import Credential.Outcome
import Credential.Pem.Block
import Credential.Pem.Boundary
import Credential.Pem.Error
import Credential.Pem.Header
import Credential.Pem.Label
import Credential.Pem.Parser
import Credential.Store.Action
import Credential.Store.Config
import Credential.Store.Error
import Credential.Store.KeyStore
import Credential.Store.Load
import Credential.Text.Base64
import Credential.Text.Blank
import Credential.Text.Decimal
import Credential.Text.Hex
import Credential.Text.Hidden
import Credential.Text.Quoted
import Credential.Text.Utf16
import Credential.Text.Utf8
import Credential.X509.Certificate
import Credential.X509.Chain
import Credential.X509.Element
import Credential.X509.Error
import Credential.X509.Extension
import Credential.X509.Json
import Credential.X509.Keyword
import Credential.X509.Name
import Credential.X509.Time
import Credential.X509.Value
import Credential.Proofs.Bytes
import Credential.Proofs.Calendar
import Credential.Proofs.Stages
import Credential.Proofs.Cipher.Aes
import Credential.Proofs.Cipher.Decrypt
import Credential.Proofs.Cipher.Des
import Credential.Proofs.Cipher.Mode
import Credential.Proofs.Cipher.Padding
import Credential.Proofs.Cipher.RoundTrip
import Credential.Proofs.Cipher.Acceptance
import Credential.Proofs.Der.ArcGroups
import Credential.Proofs.Der.Framing
import Credential.Proofs.Der.Elements
import Credential.Proofs.Der.IdentifierText
import Credential.Proofs.Der.ObjectIdentifier
import Credential.Proofs.Der.Reading
import Credential.Proofs.Der.Writer
import Credential.Proofs.Text.Base64
import Credential.Proofs.Text.Base64Reading
import Credential.Proofs.Text.Blank
import Credential.Proofs.Text.Decimal
import Credential.Proofs.Text.Hex
import Credential.Proofs.Text.Utf8
import Credential.Proofs.Text.Utf16
import Credential.Proofs.Pem.Boundary
import Credential.Proofs.Pem.Line
import Credential.Proofs.Pem.Printing
import Credential.Proofs.Pem.Reading
import Credential.Proofs.Pem.Joining
import Credential.Proofs.Pem.PrintedBlock
import Credential.Proofs.Pem.Grammar
import Credential.Proofs.Pem.FirstBlock
import Credential.Proofs.Key.FaultKind
import Credential.Proofs.Key.Container
import Credential.Proofs.Key.Sealed
import Credential.Proofs.Key.PasswordPass
import Credential.Proofs.Key.Inspection
import Credential.Proofs.Key.DerivedLength
import Credential.Proofs.Key.DekInfo
import Credential.Proofs.Key.Unlocking
import Credential.Proofs.Key.Relabelling
import Credential.Proofs.Key.MalformedVerdict
import Credential.Proofs.Key.ChainedKey
import Credential.Proofs.Key.Printed
import Credential.Proofs.Key.CipherFault
import Credential.Proofs.Key.LegacyRoundTrip
import Credential.Proofs.Key.Encoding
import Credential.Proofs.Key.PbeKey
import Credential.Proofs.Key.PbeRoundTrip
import Credential.Proofs.Key.Pkcs12Derivation
import Credential.Proofs.Key.FormatEquivalence
import Credential.Proofs.Key.KeySizeLimit
import Credential.Proofs.Key.StructureEncoding
import Credential.Proofs.Key.RsaKey
import Credential.Proofs.Key.KeyFileAbort
import Credential.Proofs.Key.Modular
import Credential.Proofs.Key.RsaRoot
import Credential.Proofs.Key.FactorRecovery
import Credential.Proofs.Key.TwoPrimeKey
import Credential.Proofs.Key.RsaOperation
import Credential.Proofs.Key.FormatDetection
import Credential.Proofs.Key.Classification
import Credential.Proofs.Key.AlgorithmDispatch
import Credential.Proofs.Key.CipherName
import Credential.Proofs.Key.DerivedPrefix
import Credential.Proofs.Key.IntegerReading
import Credential.Proofs.Key.InvalidPlaintext
import Credential.Proofs.Store.Environment
import Credential.Proofs.Store.LoadAttempt
import Credential.Proofs.Store.LoadRun
import Credential.Proofs.Store.Session
import Credential.Proofs.Store.LoadOnce
import Credential.Proofs.Store.InteractiveLoad
import Credential.Proofs.Store.SingleEntry
import Credential.Proofs.X509.Element
import Credential.Proofs.X509.Value
import Credential.Proofs.X509.NormalForm
import Credential.Proofs.X509.CertificateForm
import Credential.Proofs.X509.ChainForms
import Credential.Proofs.X509.Dates
import Credential.Proofs.X509.EncodedDates
import Credential.Proofs.X509.ChainText
import Credential.Proofs.X509.Rereading
import Credential.Proofs.X509.StoredCertificate
import Credential.Proofs.Command.Console
import Credential.Proofs.Command.Reporting
