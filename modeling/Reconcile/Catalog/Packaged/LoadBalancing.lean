import Reconcile.Catalog.Basic

/-!
Global load balancing: data centers, servers, monitors and prober pools.
-/

namespace Reconcile.Packaged

def globals : Entry where
  path := "/tm/gtm/global-settings/general"
  schemaClass := some "GSLBGlobals"
  nameless := true
  requiredModule := some "gtm"
  schemaMerge := some { path := ["general"] }
  properties := [
    (PropertyRule.renamed "synchronization" "synchronizationEnabled").sentinels "yes" "no",
    .plain "synchronizationGroupName",
    .plain "synchronizationTimeTolerance",
    .plain "synchronizationTimeout"]
  declaration := { customFunctions := ["remapItemWithSchemaMerge"] }

def dataCenter : Entry where
  path := "/tm/gtm/datacenter"
  schemaClass := some "GSLBDataCenter"
  requiredModule := some "gtm"
  properties := [
    .plain "contact",
    .plain "enabled",
    .plain "location",
    .plain "proberFallback",
    .plain "proberPool",
    .renamed "proberPreference" "proberPreferred"]

def server : Entry where
  path := "/tm/gtm/server"
  schemaClass := some "GSLBServer"
  requiredModule := some "gtm"
  properties := [
    (PropertyRule.renamed "description" "remark").defaulting "none",
    .plain "enabled",
    .plain "disabled",
    .renamed "product" "serverType",
    .renamed "proberPreference" "proberPreferred",
    .plain "proberFallback",
    .plain "proberPool",
    .renamed "limitMaxBps" "bpsLimit",
    (PropertyRule.renamed "limitMaxBpsStatus" "bpsLimitEnabled").trueAs "enabled",
    .renamed "limitMaxPps" "ppsLimit",
    (PropertyRule.renamed "limitMaxPpsStatus" "ppsLimitEnabled").trueAs "enabled",
    .renamed "limitMaxConnections" "connectionsLimit",
    (PropertyRule.renamed "limitMaxConnectionsStatus" "connectionsLimitEnabled").trueAs "enabled",
    .renamed "limitCpuUsage" "cpuUsageLimit",
    (PropertyRule.renamed "limitCpuUsageStatus" "cpuUsageLimitEnabled").trueAs "enabled",
    .renamed "limitMemAvail" "memoryLimit",
    (PropertyRule.renamed "limitMemAvailStatus" "memoryLimitEnabled").trueAs "enabled",
    (PropertyRule.renamed "iqAllowServiceCheck" "serviceCheckProbeEnabled").trueAs "yes",
    (PropertyRule.renamed "iqAllowPath" "pathProbeEnabled").trueAs "yes",
    (PropertyRule.renamed "iqAllowSnmp" "snmpProbeEnabled").trueAs "yes",
    .renamed "datacenter" "dataCenter",
    (PropertyRule.plain "devicesReference").splicing "devices",
    (PropertyRule.renamed "exposeRouteDomains" "exposeRouteDomainsEnabled").trueAs "yes",
    .renamed "virtualServerDiscovery" "virtualServerDiscoveryMode",
    (PropertyRule.renamed "monitor" "monitors").keepingCommon,
    (PropertyRule.plain "virtualServersReference").splicing "virtualServers"]
  references := [
    ("devicesReference", [
      (PropertyRule.renamed "description" "remark").defaulting "none",
      { (PropertyRule.plain "addresses").nested [
        .renamed "name" "address",
        .renamed "translation" "addressTranslation"] with upLevel := 1 }]),
    ("virtualServersReference", [
      .plain "name",
      (PropertyRule.renamed "description" "remark").defaulting "none",
      .plain "destination",
      .plain "enabled",
      .plain "disabled",
      .renamed "translationAddress" "addressTranslation",
      .renamed "translationPort" "addressTranslationPort",
      (PropertyRule.renamed "monitor" "monitors").keepingCommon])]

def httpMonitor : Entry where
  path := "/tm/gtm/monitor/http"
  schemaClass := some "GSLBMonitor"
  requiredModule := some "gtm"
  properties := [
    (PropertyRule.renamed "description" "remark").defaulting "none",
    .renamed "destination" "target",
    .plain "interval",
    .plain "timeout",
    .plain "probeTimeout",
    (PropertyRule.renamed "ignoreDownResponse" "ignoreDownResponseEnabled").trueAs "enabled",
    (PropertyRule.plain "transparent").trueAs "enabled",
    (PropertyRule.renamed "reverse" "reverseEnabled").trueAs "enabled",
    .plain "send",
    .renamed "recv" "receive"]

def httpsMonitor : Entry where
  path := "/tm/gtm/monitor/https"
  schemaClass := some "GSLBMonitor"
  requiredModule := some "gtm"
  properties := [
    (PropertyRule.renamed "description" "remark").defaulting "none",
    .renamed "destination" "target",
    .plain "interval",
    .plain "timeout",
    .plain "probeTimeout",
    (PropertyRule.renamed "ignoreDownResponse" "ignoreDownResponseEnabled").trueAs "enabled",
    (PropertyRule.plain "transparent").trueAs "enabled",
    (PropertyRule.renamed "reverse" "reverseEnabled").trueAs "enabled",
    .plain "send",
    .renamed "recv" "receive",
    .renamed "cipherlist" "ciphers",
    .renamed "cert" "clientCertificate"]
  declaration := { enabled := false }

def icmpMonitor : Entry where
  path := "/tm/gtm/monitor/gateway-icmp"
  schemaClass := some "GSLBMonitor"
  requiredModule := some "gtm"
  properties := [
    (PropertyRule.renamed "description" "remark").defaulting "none",
    .renamed "destination" "target",
    .plain "interval",
    .plain "timeout",
    .plain "probeTimeout",
    (PropertyRule.renamed "ignoreDownResponse" "ignoreDownResponseEnabled").trueAs "enabled",
    (PropertyRule.plain "transparent").trueAs "enabled",
    .plain "probeInterval",
    .plain "probeAttempts"]
  declaration := { enabled := false }

def tcpMonitor : Entry where
  path := "/tm/gtm/monitor/tcp"
  schemaClass := some "GSLBMonitor"
  requiredModule := some "gtm"
  properties := [
    (PropertyRule.renamed "description" "remark").defaulting "none",
    .renamed "destination" "target",
    .plain "interval",
    .plain "timeout",
    .plain "probeTimeout",
    (PropertyRule.renamed "ignoreDownResponse" "ignoreDownResponseEnabled").trueAs "enabled",
    (PropertyRule.plain "transparent").trueAs "enabled",
    (PropertyRule.renamed "reverse" "reverseEnabled").trueAs "enabled",
    .plain "send",
    .renamed "recv" "receive"]
  declaration := { enabled := false }

def udpMonitor : Entry where
  path := "/tm/gtm/monitor/udp"
  schemaClass := some "GSLBMonitor"
  requiredModule := some "gtm"
  properties := [
    (PropertyRule.renamed "description" "remark").defaulting "none",
    .renamed "destination" "target",
    .plain "interval",
    .plain "timeout",
    .plain "probeTimeout",
    .plain "probeInterval",
    .plain "probeAttempts",
    (PropertyRule.renamed "ignoreDownResponse" "ignoreDownResponseEnabled").trueAs "enabled",
    (PropertyRule.plain "transparent").trueAs "enabled",
    (PropertyRule.renamed "reverse" "reverseEnabled").trueAs "enabled",
    .plain "send",
    .renamed "recv" "receive",
    (PropertyRule.renamed "debug" "debugEnabled").trueAs "yes"]
  declaration := { enabled := false }

def proberPool : Entry where
  path := "/tm/gtm/prober-pool"
  schemaClass := some "GSLBProberPool"
  requiredModule := some "gtm"
  properties := [
    (PropertyRule.renamed "description" "remark").defaulting "none",
    .plain "enabled",
    .plain "disabled",
    .renamed "loadBalancingMode" "lbMode",
    (PropertyRule.plain "membersReference").splicing "members"]
  references := [
    ("membersReference", [
      .renamed "name" "server",
      (PropertyRule.renamed "description" "remark").defaulting "none",
      .plain "enabled",
      .plain "disabled",
      .plain "order"])]
  declaration := { customFunctions := ["formatGSLBProberPool"] }

def loadBalancingEntries : List Entry :=
  [globals, dataCenter, server, httpMonitor, httpsMonitor, icmpMonitor, tcpMonitor, udpMonitor,
   proberPool]

end Reconcile.Packaged
