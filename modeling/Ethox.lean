import Ethox.Basic
import Ethox.Wire.Ip
import Ethox.Managed.Map
import Ethox.Layer.Ip.Route
import Ethox.Layer.Ip.RouteLookup
import Ethox.Layer.Ip.RouteUpdate
import Ethox.Nic
import Ethox.Nic.External
import Ethox.Nic.Queues
import Ethox.Nic.ExternalRun
import Ethox.Nic.ExternalOps
import Ethox.Layer.Eth.Endpoint
import Ethox.Layer.Eth.Loopback
import Ethox.Layer.Udp.Packet
