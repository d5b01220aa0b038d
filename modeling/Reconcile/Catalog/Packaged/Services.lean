import Reconcile.Catalog.Basic

/-!
Traffic control, the device services and the disk.
-/

namespace Reconcile.Packaged

def dagGlobals : Entry where
  path := "/tm/net/dag-globals"
  schemaClass := some "DagGlobals"
  nameless := true
  properties := [
    .renamed "dagIpv6PrefixLen" "ipv6PrefixLength",
    .plain "icmpHash",
    .plain "roundRobinMode"]

def trafficControl : Entry where
  path := "/tm/ltm/global-settings/traffic-control"
  schemaClass := some "TrafficControl"
  nameless := true
  properties := [
    (PropertyRule.plain "acceptIpOptions").sentinels "enabled" "disabled",
    (PropertyRule.plain "acceptIpSourceRoute").sentinels "enabled" "disabled",
    (PropertyRule.plain "allowIpSourceRoute").sentinels "enabled" "disabled",
    (PropertyRule.plain "continueMatching").sentinels "enabled" "disabled",
    .plain "maxIcmpRate",
    .plain "maxRejectRate",
    .plain "maxRejectRateTimeout",
    .plain "minPathMtu",
    (PropertyRule.plain "pathMtuDiscovery").sentinels "enabled" "disabled",
    (PropertyRule.plain "rejectUnmatched").sentinels "enabled" "disabled"]

def httpd : Entry where
  path := "/tm/sys/httpd"
  schemaClass := some "HTTPD"
  nameless := true
  properties := [
    .plain "allow",
    .plain "authPamIdleTimeout",
    .plain "maxClients",
    .plain "sslCiphersuite",
    .plain "sslProtocol"]

def sshd : Entry where
  path := "/tm/sys/sshd"
  schemaClass := some "SSHD"
  nameless := true
  properties := [
    .plain "allow",
    .renamed "bannerText" "banner",
    .plain "inactivityTimeout",
    .plain "include"]

def disk : Entry where
  path := "/tm/sys/disk/directory"
  schemaClass := some "Disk"
  nameless := true
  properties := [
    (PropertyRule.plain "apiRawValues").nested [
      { PropertyRule.plain "applicationData" with capture := some "/appdata\\s+(\\d+)", captureProperty := some "apiAnonymous" }]]

def servicesEntries : List Entry :=
  [dagGlobals, trafficControl, httpd, sshd, disk]

end Reconcile.Packaged
