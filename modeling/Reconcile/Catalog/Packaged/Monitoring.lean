import Reconcile.Catalog.Basic

/-!
SNMP agents, users and traps, and remote logging.
-/

namespace Reconcile.Packaged

def snmpAgent : Entry where
  path := "/tm/sys/snmp"
  schemaClass := some "SnmpAgent"
  nameless := true
  properties := [
    .renamed "sysContact" "contact",
    .renamed "sysLocation" "location",
    .renamed "allowedAddresses" "allowList",
    (PropertyRule.renamed "snmpv1" "snmpV1").sentinels "enable" "disable",
    (PropertyRule.renamed "snmpv2c" "snmpV2c").sentinels "enable" "disable"]

def snmpTrapEvents : Entry where
  path := "/tm/sys/snmp"
  schemaClass := some "SnmpTrapEvents"
  nameless := true
  properties := [
    (PropertyRule.renamed "agentTrap" "agentStartStop").sentinels "enabled" "disabled",
    (PropertyRule.renamed "authTrap" "authentication").sentinels "enabled" "disabled",
    (PropertyRule.renamed "bigipTraps" "device").sentinels "enabled" "disabled"]

def snmpUser : Entry where
  path := "/tm/sys/snmp/users"
  schemaClass := some "SnmpUser"
  properties := [
    .renamed "username" "name",
    .plain "access",
    .renamed "oidSubset" "oid",
    .renamed "authPassword" "authentication.password",
    .renamed "authProtocol" "authentication.protocol",
    .renamed "privacyPassword" "privacy.password",
    .renamed "privacyProtocol" "privacy.protocol"]

def snmpCommunity : Entry where
  path := "/tm/sys/snmp/communities"
  schemaClass := some "SnmpCommunity"
  properties := [
    .renamed "communityName" "name",
    .plain "access",
    (PropertyRule.plain "ipv6").sentinels "enabled" "disabled",
    .plain "source",
    .renamed "oidSubset" "oid"]

def snmpTrapDestination : Entry where
  path := "/tm/sys/snmp/traps"
  schemaClass := some "SnmpTrapDestination"
  properties := [
    .plain "version",
    .renamed "host" "destination",
    .plain "port",
    .plain "network",
    .plain "community",
    .plain "securityName",
    .renamed "authPassword" "authentication.password",
    .renamed "authProtocol" "authentication.protocol",
    .renamed "privacyPassword" "privacy.password",
    .renamed "privacyProtocol" "privacy.protocol",
    .plain "engineId"]
  declaration := { properties := [{ id := "network", replaceIfValue := .text "mgmt", newValue := .text "management" }] }

def syslogRemoteServer : Entry where
  path := "/tm/sys/syslog"
  schemaClass := some "SyslogRemoteServer"
  properties := [
    (PropertyRule.plain "remoteServers").nested [
      .plain "name",
      .plain "host",
      .plain "localIp",
      .plain "remotePort"]]
  declaration := { properties := [{ id := "localIp", removeIfValue := some [.text "none"] }] }

def monitoringEntries : List Entry :=
  [snmpAgent, snmpTrapEvents, snmpUser, snmpCommunity, snmpTrapDestination, syslogRemoteServer]

end Reconcile.Packaged
