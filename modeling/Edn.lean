import Edn.Main
import Edn.FileSystem
import Edn.Number.Printer
import Edn.Number.Reader
import Edn.Session.Script
import Edn.Proofs.Building
import Edn.Proofs.Decoding
import Edn.Proofs.DepthLimit
import Edn.Proofs.Document
import Edn.Proofs.FailingStreams
import Edn.Proofs.Interleaving
import Edn.Proofs.Lines
import Edn.Proofs.Lookahead
import Edn.Proofs.NodeShape
import Edn.Proofs.Numerals
import Edn.Proofs.Polling
import Edn.Proofs.RoundTrip
import Edn.Proofs.Widening
import Edn.Proofs.Releasing
import Edn.Proofs.Collecting
import Edn.Proofs.CommandLine
import Edn.Proofs.Sentinels
import Edn.Proofs.Staging
import Edn.Proofs.Slicing
import Edn.Proofs.Describing
import Edn.Proofs.Spending
