import Silk.Python
import Silk.Plugin.Codec
import Silk.Plugin.Register
import Silk.Plugin.Fields
import Silk.Plugin.Aggregate
import Silk.Bag
import Silk.IPSet
import Silk.BagBase
import Silk.BagOps
import Silk.GroupIterator
import Silk.Harness.Frame
import Silk.Harness.Supervisor
import Silk.Harness.LogLines
import Silk.Harness.Regex
import Silk.Harness.Protocol
import Silk.Harness.UdpSender
import Silk.Harness.TimedReadline
import Silk.Harness.TcpSender
import Silk.Harness.Gencerts
import Silk.Harness.Monitor
import Silk.Site
import Silk.SiteRepoIter
import Silk.FGlob
