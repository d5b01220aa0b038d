import Reconcile.Catalog.Basic

/-!
Remote roles and the sources of authentication, folded into one class.
-/

namespace Reconcile.Packaged

def remoteAuthRole : Entry where
  path := "/tm/auth/remote-role/role-info"
  schemaClass := some "RemoteAuthRole"
  properties := [
    .plain "attribute",
    .plain "console",
    (PropertyRule.renamed "deny" "remoteAccess").sentinels "disabled" "enabled",
    .plain "lineOrder",
    .plain "role",
    .plain "userPartition"]
  declaration := { properties := [{ id := "userPartition", replaceIfValue := .text "All", newValue := .text "all" }] }

def authentication : Entry where
  path := "/tm/auth/source"
  schemaClass := some "Authentication"
  nameless := true
  properties := [
    .plain "type",
    (PropertyRule.plain "fallback").sentinels "true" "false"]
  declaration := { customFunctions := ["removeIncompleteAuthMethods", "removeLdapCertAndKey"] }

def remoteUser : Entry where
  path := "/tm/auth/remote-user"
  schemaClass := some "Authentication"
  nameless := true
  schemaMerge := some { path := ["remoteUsersDefaults"] }
  properties := [
    .renamed "defaultPartition" "partitionAccess",
    .renamed "defaultRole" "role",
    .renamed "remoteConsoleAccess" "terminalAccess"]

def radius : Entry where
  path := "/tm/auth/radius"
  schemaClass := some "Authentication"
  nameless := true
  silent := true
  schemaMerge := some { path := ["radius"], skipWhenOmitted := true }
  properties := [
    .plain "serviceType"]

def radiusServer : Entry where
  path := "/tm/auth/radius-server"
  schemaClass := some "Authentication"
  silent := true
  schemaMerge := some { path := ["radius", "servers"], adds := some "add", skipWhenOmitted := true }
  properties := [
    .plain "port",
    .plain "secret",
    .plain "server"]

def ldap : Entry where
  path := "/tm/auth/ldap"
  schemaClass := some "Authentication"
  nameless := true
  silent := true
  schemaMerge := some { path := ["ldap"], skipWhenOmitted := true }
  properties := [
    .plain "bindDn",
    .renamed "bindPw" "bindPassword",
    .plain "bindTimeout",
    (PropertyRule.renamed "checkHostAttr" "checkBindPassword").trueAs "enabled",
    (PropertyRule.renamed "checkRolesGroup" "checkRemoteRole").trueAs "enabled",
    .plain "filter",
    .plain "groupDn",
    .plain "groupMemberAttribute",
    .plain "idleTimeout",
    (PropertyRule.renamed "ignoreAuthInfoUnavail" "ignoreAuthInfoUnavailable").trueAs "yes",
    (PropertyRule.plain "ignoreUnknownUser").trueAs "enabled",
    .plain "port",
    (PropertyRule.plain "referrals").trueAs "yes",
    .renamed "scope" "searchScope",
    .plain "searchBaseDn",
    .plain "searchTimeout",
    .plain "servers",
    .plain "ssl",
    .renamed "sslCaCertFile" "sslCaCert",
    .plain "sslCheckPeer",
    .plain "sslCiphers",
    .plain "sslClientCert",
    .plain "sslClientKey",
    .plain "userTemplate",
    .plain "version"]

def tacacs : Entry where
  path := "/tm/auth/tacacs"
  schemaClass := some "Authentication"
  nameless := true
  silent := true
  schemaMerge := some { path := ["tacacs"], skipWhenOmitted := true }
  properties := [
    .plain "accounting",
    .plain "authentication",
    (PropertyRule.plain "debug").trueAs "enabled",
    (PropertyRule.plain "encryption").trueAs "enabled",
    .plain "protocol",
    .plain "secret",
    .plain "servers",
    .plain "service"]

def authenticationEntries : List Entry :=
  [remoteAuthRole, authentication, remoteUser, radius, radiusServer, ldap, tacacs]

end Reconcile.Packaged
