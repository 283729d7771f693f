import Courier.Main
import Courier.Proofs.Cli.Aborts
import Courier.Proofs.Cli.Defaults
import Courier.Proofs.Cli.LocalHost
import Courier.Proofs.Headers.History
import Courier.Proofs.Http.Credentials
import Courier.Proofs.Http.Display
import Courier.Proofs.Http.Head
import Courier.Proofs.Http.Method
import Courier.Proofs.Http.Pairs
import Courier.Proofs.Item.Escaping
import Courier.Proofs.Path.Growth
import Courier.Proofs.Path.LargeIndex
import Courier.Proofs.Path.Overwrite
import Courier.Proofs.Path.Respelling
import Courier.Proofs.Path.Tokenization
