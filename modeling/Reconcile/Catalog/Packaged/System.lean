import Reconcile.Catalog.Basic

/-!
System settings: host name, provisioning, time, name service and database variables.
-/

namespace Reconcile.Packaged

def hostName : Entry where
  path := "/tm/sys/global-settings"
  properties := [
    .plain "hostname"]
  declaration := { name := some "hostname" }

def system : Entry where
  path := "/tm/sys/global-settings"
  schemaClass := some "System"
  nameless := true
  properties := [
    .plain "hostname",
    .plain "consoleInactivityTimeout",
    (PropertyRule.renamed "guiAudit" "guiAuditLog").sentinels "enabled" "disabled",
    (PropertyRule.renamed "mgmtDhcp" "mgmtDhcpEnabled").sentinels "enabled" "disabled",
    (PropertyRule.plain "guiSecurityBanner").sentinels "enabled" "disabled",
    .plain "guiSecurityBannerText"]

def systemCli : Entry where
  path := "/tm/cli/global-settings"
  schemaClass := some "System"
  nameless := true
  schemaMerge := some { adds := some "add" }
  properties := [
    { PropertyRule.renamed "idleTimeout" "cliInactivityTimeout" with multiplier := some 60, zeroValue := .text "disabled" },
    (PropertyRule.renamed "audit" "tmshAuditLog").sentinels "enabled" "disabled"]

def systemUpdate : Entry where
  path := "/tm/sys/software/update"
  schemaClass := some "System"
  nameless := true
  schemaMerge := some { adds := some "add" }
  properties := [
    (PropertyRule.plain "autoCheck").sentinels "enabled" "disabled",
    { (PropertyRule.plain "autoPhonehome").sentinels "enabled" "disabled" with minVersion := some "13.1" }]

def provision : Entry where
  path := "/tm/sys/provision"
  schemaClass := some "Provision"
  singleValue := true
  properties := [
    .plain "level"]
  declaration := { name := some "Provision" }

def ntp : Entry where
  path := "/tm/sys/ntp"
  schemaClass := some "NTP"
  nameless := true
  properties := [
    .plain "servers",
    .plain "timezone"]

def dns : Entry where
  path := "/tm/sys/dns"
  schemaClass := some "DNS"
  nameless := true
  properties := [
    .plain "nameServers",
    .plain "search"]

def dnsResolver : Entry where
  path := "/tm/net/dns-resolver"
  schemaClass := some "DNS_Resolver"
  properties := [
    (PropertyRule.plain "answerDefaultZones").sentinels "yes" "no",
    .plain "cacheSize",
    .plain "forwardZones",
    (PropertyRule.plain "randomizeQueryNameCase").sentinels "yes" "no",
    .plain "routeDomain",
    (PropertyRule.plain "useIpv4").sentinels "yes" "no",
    (PropertyRule.plain "useIpv6").sentinels "yes" "no",
    (PropertyRule.plain "useTcp").sentinels "yes" "no",
    (PropertyRule.plain "useUdp").sentinels "yes" "no"]
  declaration := { customFunctions := ["remapNameservers"] }

def dbVariables : Entry where
  path := "/tm/sys/db"
  schemaClass := some "DbVariables"
  singleValue := true
  properties := [
    .plain "value"]

def systemEntries : List Entry :=
  [hostName, system, systemCli, systemUpdate, provision, ntp, dns, dnsResolver, dbVariables]

end Reconcile.Packaged
