import Blueprints.Library.Builtin
import Blueprints.Value.Operators

namespace Blueprints.Library.Endpoints
open Build

/-- Makes an endpoint class derived from the root endpoint; an absent name is made from a fresh
    identifier. -/
def endpointCreate (kwargs : List (String × Value)) : Build Value := do
  let mut kw := kwargs
  let name <- match kwargs.find? (·.1 == "name") with
    | some (_, .none) | none => do
      let n := "Endpoint_" ++ (<- Build.freshShort)
      kw := upsert kw "name" (.str n)
      pure (Value.str n)
    | some (_, v) => pure v
  pure (.entity (<- makeClass .endpoint name [<- root .endpoint] kw))

/-- An endpoint that already exists on the server, known by name. -/
def existingEndpoint (name : Value) : Build Value := do
  pure (.entity (<- makeClass .endpoint name [<- root .endpoint]
    [("name", name), ("attrs", .dict [])]))

def httpEndpoint (b : Bound) : Build Value := do
  let url := b.get "url"
  let urls := match url with
    | .str _ => Value.list [url]
    | v => v
  let retryCount <- arith .add (b.get "retries") (.int 1)
  let auth := b.get "auth"
  let attrs : List (String × Value) := [("urls", urls), ("retry_count", retryCount),
    ("retry_interval", b.get "retry_interval"), ("connection_timeout", b.get "timeout"),
    ("tls_verify", b.get "verify"),
    ("authentication", if auth.truthy then auth else textDict [("auth_type", .str "none")])]
  endpointCreate [("name", b.get "name"), ("type", .str "HTTP"), ("value_type", .str "IP"),
    ("attrs", textDict attrs)]

/-- The settings of a machine endpoint. -/
structure Machine where
  valueType : String
  values : Value := .list []
  vms : Value := .list []
  name : Value := .none
  osType : String := "Linux"
  port : Value := .int 22
  protocol : Value := .none
  cred : Value := .none
  subnet : Value := .none
  filter : Value := .none
  account : Value := .none

def machineEndpoint (m : Machine) : Build Value := do
  let mut attrs : List (String × Value) := [("values", m.values), ("port", m.port)]
  if m.valueType == "VM" then
    if !m.account.truthy then exitWith "Account is compulsory for vm endpoints"
    let filterType := if m.filter.truthy then "dynamic" else "static"
    attrs := attrs ++ [("vm_references", m.vms), ("subnet", m.subnet),
      ("filter_type", .str filterType), ("account_reference", m.account)]
    if filterType == "dynamic" then attrs := attrs ++ [("filter", m.filter)]
  if m.protocol.truthy then attrs := attrs ++ [("connection_protocol", m.protocol)]
  if let .entity c := m.cred then
    if c.kind == .credential then
      attrs := attrs ++ [("credential_definition_list", .list [m.cred]),
        ("login_credential_reference", <- getRef c)]
  endpointCreate [("name", m.name), ("type", .str m.osType), ("value_type", .str m.valueType),
    ("attrs", textDict attrs)]

/-- The remote shell protocol of a Windows endpoint, in lower case, and its port: 5985 for HTTP
    and 5986 for HTTPS unless one is given. -/
def windowsProtocol (protocol port : Value) : Build (Value × Value) := do
  let p <- match protocol with
    | .str s => pure s.toLower
    | v => throw (v.noAttribute "lower")
  if p != "http" && p != "https" then
    throw (.wrongType ("Connection Protocol (" ++ p ++ ") should be HTTP/HTTPS"))
  let port := if port.isNone then Value.int (if p == "http" then 5985 else 5986) else port
  pure (.str p, port)

/-- The authentication of an HTTP endpoint by user name and password. -/
def basicAuth (b : Bound) : Value :=
  textDict [("type", .str "basic"), ("username", b.get "username"),
    ("password", textDict [("attrs", textDict [("is_secret_modified", .bool true)]),
      ("value", b.get "password")])]

/-- The endpoint constructors, by the name that a path resolves to. -/
def builtin? (name : String) : Option Builtin :=
  let f (qualName : String) (params : List (String × Option Value))
      (run : Bound -> Build Value) : Option Builtin :=
    some { sig := { qualName, params }, run }
  match name with
  | "CalmEndpoint" => some (refusing "CalmEndpoint" "'CalmEndpoint' is not callable")
  | "CalmEndpoint.Linux" => some (refusing "Linux" "'Linux' is not callable")
  | "CalmEndpoint.Windows" => some (refusing "Windows" "'Windows' is not callable")
  | "existing_endpoint" => f "existing_endpoint" [req "name"] fun b => existingEndpoint (b.get "name")
  | "CalmEndpoint.HTTP" =>
    f "_http_endpoint" [req "url", opt "name" .none, opt "retries" (.int 0),
      opt "retry_interval" (.int 10), opt "timeout" (.int 120), opt "verify" (.bool false),
      opt "auth" .none] httpEndpoint
  | "CalmEndpoint.Auth" =>
    f "_basic_auth" [req "username", req "password"] fun b => pure (basicAuth b)
  | "linux_endpoint_ip" =>
    f "linux_endpoint_ip" [req "value", opt "name" .none, opt "port" (.int 22),
      opt "os_type" (.str "Linux"), opt "cred" .none] fun b =>
      machineEndpoint {
        valueType := "IP", values := b.get "value", name := b.get "name",
        port := b.get "port", cred := b.get "cred" }
  | "windows_endpoint_ip" =>
    f "windows_endpoint_ip" [req "value", opt "name" .none, opt "connection_protocol" (.str "HTTP"),
      opt "port" .none, opt "cred" .none] fun b => do
      let (protocol, port) <- windowsProtocol (b.get "connection_protocol") (b.get "port")
      machineEndpoint {
        valueType := "IP", values := b.get "value", name := b.get "name",
        osType := "Windows", port, protocol, cred := b.get "cred" }
  | "linux_endpoint_vm" =>
    f "linux_endpoint_vm" [opt "vms" (.list []), opt "filter" .none, opt "name" .none,
      opt "port" (.int 22), opt "subnet" (.str ""), opt "cred" .none, opt "account" .none] fun b =>
      machineEndpoint {
        valueType := "VM", vms := b.get "vms", filter := b.get "filter",
        name := b.get "name", port := b.get "port", subnet := b.get "subnet",
        cred := b.get "cred", account := b.get "account" }
  | "windows_endpoint_vm" =>
    f "windows_endpoint_vm" [opt "vms" (.list []), opt "name" .none, opt "filter" .none,
      opt "connection_protocol" (.str "HTTP"), opt "port" .none, opt "cred" .none,
      opt "subnet" (.str ""), opt "account" .none] fun b => do
      let (protocol, port) <- windowsProtocol (b.get "connection_protocol") (b.get "port")
      machineEndpoint {
        valueType := "VM", vms := b.get "vms", filter := b.get "filter",
        name := b.get "name", osType := "Windows", port, protocol, subnet := b.get "subnet",
        cred := b.get "cred", account := b.get "account" }
  | _ => none

def member? (owner attr : String) : Option String :=
  match owner, attr with
  | "CalmEndpoint", "use_existing" => some "existing_endpoint"
  | "CalmEndpoint", "Linux" => some "CalmEndpoint.Linux"
  | "CalmEndpoint", "Windows" => some "CalmEndpoint.Windows"
  | "CalmEndpoint", "HTTP" => some "CalmEndpoint.HTTP"
  | "CalmEndpoint", "Auth" => some "CalmEndpoint.Auth"
  | "CalmEndpoint.Linux", "ip" => some "linux_endpoint_ip"
  | "CalmEndpoint.Linux", "vm" => some "linux_endpoint_vm"
  | "CalmEndpoint.Windows", "ip" => some "windows_endpoint_ip"
  | "CalmEndpoint.Windows", "vm" => some "windows_endpoint_vm"
  | _, _ => none

end Blueprints.Library.Endpoints
