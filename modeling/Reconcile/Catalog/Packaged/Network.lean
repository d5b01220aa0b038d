import Reconcile.Catalog.Basic

/-!
Network objects: trunks, VLANs, addresses, routes and routing protocols.
-/

namespace Reconcile.Packaged

def trunk : Entry where
  path := "/tm/net/trunk"
  schemaClass := some "Trunk"
  properties := [
    .plain "distributionHash",
    .plain "interfaces",
    (PropertyRule.renamed "lacp" "lacpEnabled").sentinels "enabled" "disabled",
    .plain "lacpMode",
    .plain "lacpTimeout",
    .plain "linkSelectPolicy",
    .plain "qinqEthertype",
    (PropertyRule.renamed "stp" "spanningTreeEnabled").sentinels "enabled" "disabled"]

def vlan : Entry where
  path := "/tm/net/vlan"
  schemaClass := some "VLAN"
  properties := [
    .plain "mtu",
    .plain "tag",
    (PropertyRule.plain "interfacesReference").splicing "interfaces",
    .renamed "autoLasthop" "autoLastHop",
    .plain "cmpHash",
    (PropertyRule.renamed "failsafe" "failsafeEnabled").sentinels "enabled" "disabled",
    .plain "failsafeAction",
    .plain "failsafeTimeout"]
  references := [
    ("interfacesReference", [
      .plain "name",
      .plain "tagged"])]

def selfIp : Entry where
  path := "/tm/net/self"
  schemaClass := some "SelfIp"
  properties := [
    .plain "address",
    .plain "vlan",
    .plain "trafficGroup",
    .plain "allowService",
    .renamed "fwEnforcedPolicy" "enforcedFirewallPolicy",
    .renamed "fwStagedPolicy" "stagedFirewallPolicy"]

def route : Entry where
  path := "/tm/net/route"
  schemaClass := some "Route"
  partitions := some ["Common", "LOCAL_ONLY"]
  properties := [
    .plain "gw",
    .plain "network",
    .plain "mtu",
    .renamed "tmInterface" "target"]

def routeDomain : Entry where
  path := "/tm/net/route-domain"
  schemaClass := some "RouteDomain"
  properties := [
    .plain "id",
    (PropertyRule.plain "parent").defaulting "none",
    .renamed "bwcPolicy" "bandWidthControllerPolicy",
    .plain "connectionLimit",
    .plain "flowEvictionPolicy",
    .renamed "fwEnforcedPolicy" "enforcedFirewallPolicy",
    .renamed "fwStagedPolicy" "stagedFirewallPolicy",
    .plain "ipIntelligencePolicy",
    .plain "securityNatPolicy",
    .plain "servicePolicy",
    (PropertyRule.plain "strict").sentinels "enabled" "disabled",
    .renamed "routingProtocol" "routingProtocols",
    .plain "vlans"]
  declaration := { customFunctions := ["renameDefaultRouteDomain"] }

def asPath : Entry where
  path := "/tm/net/routing/as-path"
  schemaClass := some "RoutingAsPath"
  properties := [
    (PropertyRule.plain "entriesReference").splicing "entries"]
  references := [
    ("entriesReference", [
      { PropertyRule.plain "name" with stringToInt := true },
      .plain "regex"])]

def bgp : Entry where
  path := "/tm/net/routing/bgp"
  schemaClass := some "RoutingBGP"
  properties := [
    (PropertyRule.renamed "addressFamily" "addressFamilies").nested [
      .renamed "name" "internetProtocol",
      .renamed "redistribute" "redistributionList"],
    (PropertyRule.plain "gracefulRestart").nested [
      (PropertyRule.renamed "gracefulReset" "gracefulResetEnabled").trueAs "enabled",
      .plain "restartTime",
      .renamed "stalepathTime" "stalePathTime"],
    .plain "holdTime",
    .plain "keepAlive",
    .renamed "localAs" "localAS",
    .plain "routerId",
    .plain "routeDomain",
    (PropertyRule.plain "neighborReference").splicing "neighbors",
    (PropertyRule.plain "peerGroupReference").splicing "peerGroups"]
  references := [
    ("neighborReference", [
      .renamed "name" "address",
      .plain "ebgpMultihop",
      .plain "peerGroup"]),
    ("peerGroupReference", [
      .plain "name",
      .renamed "remoteAs" "remoteAS",
      (PropertyRule.renamed "addressFamily" "addressFamilies").nested [
        .renamed "name" "internetProtocol",
        .plain "routeMap",
        (PropertyRule.renamed "softReconfigurationInbound" "softReconfigurationInboundEnabled").trueAs "enabled"]])]

def networkEntries : List Entry :=
  [trunk, vlan, selfIp, route, routeDomain, asPath, bgp]

end Reconcile.Packaged
