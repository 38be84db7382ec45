import PowerDiscovery.Discovery.Ipmi
import PowerDiscovery.Discovery.Mdns
import PowerDiscovery.Discovery.NetXml
import PowerDiscovery.Discovery.Serial
import PowerDiscovery.Discovery.Simulation
import PowerDiscovery.Discovery.Snmp
import PowerDiscovery.Discovery.Usb

/-! # The engines of a site

The engine of every backend, all of them asking the same site. -/

namespace PowerDiscovery

def Site.engines (site : Site) (directory : String) : Engines
  | .usb => Usb.engine site
  | .snmp => Snmp.engine site
  | .xml => NetXml.engine site
  | .nut => Upsd.engine site
  | .nutSimulation => Simulation.engine site directory
  | .avahi => Mdns.engine site
  | .ipmi => Ipmi.engine site
  | .eatonSerial => Serial.engine site

end PowerDiscovery
