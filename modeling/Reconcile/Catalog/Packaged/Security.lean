import Reconcile.Catalog.Basic

/-!
Firewall policies, security analytics and the application firewall.
-/

namespace Reconcile.Packaged

def firewallPolicy : Entry where
  path := "/tm/security/firewall/policy"
  schemaClass := some "FirewallPolicy"
  requiredModule := some "afm"
  properties := [
    .renamed "description" "remark",
    (PropertyRule.plain "rulesReference").splicing "rules"]
  references := [
    ("rulesReference", [
      .plain "name",
      .renamed "description" "remark",
      .plain "action",
      .renamed "ipProtocol" "protocol",
      (PropertyRule.renamed "log" "loggingEnabled").trueAs "yes",
      .plain "source",
      .plain "destination"])]

def securityAnalytics : Entry where
  path := "/tm/security/analytics/settings"
  schemaClass := some "SecurityAnalytics"
  nameless := true
  requiredModule := some "afm"
  properties := [
    (PropertyRule.renamed "collectAllDosStatistic" "collectAllDosStatsEnabled").sentinels "enabled" "disabled",
    (PropertyRule.renamed "collectClientIp" "collectClientIpEnabled").sentinels "enabled" "disabled",
    (PropertyRule.renamed "collectDestinationIp" "collectDestinationIpEnabled").sentinels "enabled" "disabled",
    (PropertyRule.renamed "staleRules" "collectStaleRulesEnabled").nested [
      (PropertyRule.plain "collect").trueAs "enabled"]]
  declaration := { customFunctions := ["remapStaleRules"] }

def applicationFirewall : Entry where
  path := "/tm/asm/advanced-settings"
  schemaClass := some "SecurityWaf"
  nameless := true
  requiredModule := some "asm"
  schemaMerge := some { path := ["advancedSettings"], adds := some "add", skipWhenOmitted := true }
  properties := [
    .plain "value"]
  declaration := { customFunctions := ["convertAdvancedSettings"] }

def securityEntries : List Entry :=
  [firewallPolicy, securityAnalytics, applicationFirewall]

end Reconcile.Packaged
