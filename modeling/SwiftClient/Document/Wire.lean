import SwiftClient.Document.Basic

/-!
# Names in documents

The names by which a document's text calls the choices that it makes.
-/
namespace SwiftClient

def Purpose.name : Purpose → String
  | model => "model"
  | interface => "interface"
  | abstractImplementation => "abstractImplementation"
  | implementation => "implementation"
  | unknown => "unknown"

def Purpose.byName : List (String × Purpose) :=
  [model, interface, abstractImplementation, implementation, unknown].map fun p => (p.name, p)

def Method.name : Method → String
  | get => "GET"
  | put => "PUT"
  | post => "POST"
  | delete => "DELETE"
  | options => "OPTIONS"
  | head => "HEAD"
  | patch => "PATCH"
  | trace => "TRACE"

def Method.byName : List (String × Method) :=
  [get, put, post, delete, options, head, patch, trace].map fun m => (m.name, m)

def ParameterPlace.name : ParameterPlace → String
  | path => "path"
  | query => "query"
  | header => "header"
  | cookie => "cookie"

def ParameterPlace.byName : List (String × ParameterPlace) :=
  [path, query, header, cookie].map fun p => (p.name, p)

def KeyPlace.name : KeyPlace → String
  | header => "header"
  | query => "query"
  | cookie => "cookie"

def KeyPlace.byName : List (String × KeyPlace) :=
  [header, query, cookie].map fun p => (p.name, p)

def FlowKind.name : FlowKind → String
  | implicit => "implicit"
  | password => "password"
  | clientCredentials => "clientCredentials"
  | authorizationCode => "authorizationCode"

def FlowKind.byName : List (String × FlowKind) :=
  [implicit, password, clientCredentials, authorizationCode].map fun f => (f.name, f)

inductive KindTag where
  | object | enum | interface | hierarchy | wrapper | oneOf
  deriving DecidableEq

def KindTag.name : KindTag → String
  | object => "object"
  | enum => "enum"
  | interface => "interface"
  | hierarchy => "hierarchy"
  | wrapper => "wrapper"
  | oneOf => "oneOf"

def KindTag.byName : List (String × KindTag) :=
  [object, enum, interface, hierarchy, wrapper, oneOf].map fun k => (k.name, k)

def SchemaKind.tag : SchemaKind → KindTag
  | object _ => .object
  | enum _ => .enum
  | interface _ => .interface
  | hierarchy _ => .hierarchy
  | wrapper _ => .wrapper
  | oneOf _ => .oneOf

inductive SecurityTag where
  | apiKey | http | oauth2 | openIdConnect
  deriving DecidableEq

def SecurityTag.name : SecurityTag → String
  | apiKey => "apiKey"
  | http => "http"
  | oauth2 => "oauth2"
  | openIdConnect => "openIdConnect"

def SecurityTag.byName : List (String × SecurityTag) :=
  [apiKey, http, oauth2, openIdConnect].map fun t => (t.name, t)

def SecurityKind.tag : SecurityKind → SecurityTag
  | apiKey _ _ => .apiKey
  | http _ _ => .http
  | oauth2 _ => .oauth2
  | openIdConnect _ => .openIdConnect

end SwiftClient
