import ModuleSharing.Json.Decode

/-!
# Build targets

Whom a child build is made for.
-/

namespace ModuleSharing

inductive BuildTarget where
  | client
  | server
deriving DecidableEq, Repr, Ord

namespace BuildTarget

def name : BuildTarget → String
  | client => "client"
  | server => "server"

def names : List (String × BuildTarget) := [(client.name, client), (server.name, server)]

/-- The target of a build by the build's name; every name but one stands for the client. -/
def ofBuildName (s : String) : BuildTarget := if s = server.name then server else client

def isServer : BuildTarget → Bool
  | client => false
  | server => true

def decoder : Json.Decoder BuildTarget := .name names

end BuildTarget

end ModuleSharing
