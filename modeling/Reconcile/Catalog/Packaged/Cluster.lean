import Reconcile.Catalog.Basic

/-!
Clustering, traffic groups, analytics and the management network.
-/

namespace Reconcile.Packaged

def configSync : Entry where
  path := "/tm/cm/device/~Common~\x7b\x7bdeviceName\x7d\x7d"
  schemaClass := some "ConfigSync"
  nameless := true
  properties := [
    .plain "configsyncIp"]

def failoverUnicast : Entry where
  path := "/tm/cm/device/~Common~\x7b\x7bdeviceName\x7d\x7d"
  schemaClass := some "FailoverUnicast"
  nameless := true
  properties := [
    ((PropertyRule.renamed "unicastAddress" "addressPorts").defaulting "none").nested [
      .renamed "ip" "address",
      .plain "port"]]
  declaration := { customFunctions := ["formatFailoverUnicast"] }

def failoverMulticast : Entry where
  path := "/tm/cm/device/~Common~\x7b\x7bdeviceName\x7d\x7d"
  schemaClass := some "FailoverMulticast"
  nameless := true
  properties := [
    .renamed "multicastInterface" "interface",
    .renamed "multicastIp" "address",
    .renamed "multicastPort" "port"]

def mirrorIp : Entry where
  path := "/tm/cm/device/~Common~\x7b\x7bdeviceName\x7d\x7d"
  schemaClass := some "MirrorIp"
  nameless := true
  properties := [
    .renamed "mirrorIp" "primaryIp",
    .renamed "mirrorSecondaryIp" "secondaryIp"]

def deviceGroup : Entry where
  path := "/tm/cm/device-group"
  schemaClass := some "DeviceGroup"
  ignore := [("name", "^device_trust_group$"), ("name", "^gtm$"), ("name", "^datasync-.*")]
  properties := [
    .plain "type",
    (PropertyRule.plain "autoSync").sentinels "enabled" "disabled",
    (PropertyRule.plain "saveOnAutoSync").sentinels "true" "false",
    (PropertyRule.plain "networkFailover").sentinels "enabled" "disabled",
    (PropertyRule.plain "asmSync").sentinels "enabled" "disabled",
    (PropertyRule.plain "fullLoadOnSync").sentinels "true" "false"]
  declaration := { enabled := false }

def macMasquerade : Entry where
  path := "/tm/cm/traffic-group"
  schemaClass := some "MAC_Masquerade"
  ignore := [("name", "^traffic-group-local-only$")]
  properties := [
    .renamed "mac" "source.interface"]

def analytics : Entry where
  path := "/tm/analytics/global-settings"
  schemaClass := some "Analytics"
  nameless := true
  requiredModule := some "avr"
  properties := [
    (PropertyRule.renamed "avrdDebugMode" "debugEnabled").sentinels "enabled" "disabled",
    .renamed "avrdInterval" "interval",
    .plain "offboxProtocol",
    .plain "offboxTcpAddresses",
    .plain "offboxTcpPort",
    (PropertyRule.renamed "useOffbox" "offboxEnabled").sentinels "enabled" "disabled",
    .plain "sourceId",
    .plain "tenantId"]

def managementIp : Entry where
  path := "/tm/sys/management-ip"
  schemaClass := some "ManagementIp"
  properties := [
    .renamed "name" "address",
    .renamed "description" "remark"]
  declaration := { customFunctions := ["remapManagementIp"] }

def managementRoute : Entry where
  path := "/tm/sys/management-route"
  schemaClass := some "ManagementRoute"
  properties := [
    .renamed "description" "remark",
    .renamed "gateway" "gw",
    .plain "mtu",
    .plain "network",
    .plain "type"]

def clusterEntries : List Entry :=
  [configSync, failoverUnicast, failoverMulticast, mirrorIp, deviceGroup, macMasquerade, analytics,
   managementIp, managementRoute]

end Reconcile.Packaged
