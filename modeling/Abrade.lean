import Abrade.Controller.History
import Abrade.Controller.Trend
import Abrade.Generator.Decimal
import Abrade.Generator.Representation
import Abrade.Generator.Reset
import Abrade.Generator.Stdin
import Abrade.Generator.Telescoping
import Abrade.Invocation.Output
import Abrade.Network.Authority
import Abrade.Network.OperationTimeout
import Abrade.Network.ProxySession
import Abrade.Network.Timeout
import Abrade.Network.Verification
import Abrade.Redirect.Locations
import Abrade.Scraper.Determinism
import Abrade.Scraper.Dispatch
import Abrade.Scraper.Progress
import Abrade.Scraper.Writing
