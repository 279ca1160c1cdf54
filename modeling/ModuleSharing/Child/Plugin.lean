import ModuleSharing.Dictionary
import ModuleSharing.Json.Decode

/-!
# Plugins of child builds
-/

namespace ModuleSharing

open Json

inductive ChildPlugin where
  | moduleFederation
  | nodeFederation
  | jsonpTemplate
  | nodeTemplate
  | loaderTarget (target : String)
  | library (kind : String)
  /-- Replaces names by expressions. -/
  | define (definitions : Dictionary String String)
  /-- Modules that stay outside of the bundle. -/
  | externals (modules : List String)
  | streamingTarget
  | promiseExternalRuntime
deriving DecidableEq, Repr

namespace ChildPlugin

def name : ChildPlugin → String
  | moduleFederation => "module-federation"
  | nodeFederation => "node-federation"
  | jsonpTemplate => "jsonp-template"
  | nodeTemplate => "node-template"
  | loaderTarget _ => "loader-target"
  | library _ => "library"
  | define _ => "define"
  | externals _ => "externals"
  | streamingTarget => "streaming-target"
  | promiseExternalRuntime => "promise-external-runtime"

def members : ChildPlugin → List (String × Json)
  | loaderTarget target => [("target", .string target)]
  | library kind => [("kind", .string kind)]
  | define definitions =>
    [("definitions", .object (definitions.toList.map fun (k, v) => (k, .string v)))]
  | externals modules => [("modules", .ofStrings modules)]
  | _ => []

def toJson (p : ChildPlugin) : Json := .object (("plugin", .string p.name) :: p.members)

/-- How the plugin with each name is read. -/
def records : List (String × Record ChildPlugin) :=
  [("module-federation", pure moduleFederation), ("node-federation", pure nodeFederation),
    ("jsonp-template", pure jsonpTemplate), ("node-template", pure nodeTemplate),
    ("loader-target", loaderTarget <$> .required "target" .text),
    ("library", library <$> .required "kind" .text),
    ("define", define <$> .required "definitions" fun d => (Decoder.members .text d).map .ofList),
    ("externals", externals <$> .required "modules" (.list .text)),
    ("streaming-target", pure streamingTarget),
    ("promise-external-runtime", pure promiseExternalRuntime)]

def decoder : Decoder ChildPlugin :=
  .tagged "plugin" (.variant records) fun r => r.decoder "ChildPlugin" .ignored

end ChildPlugin

end ModuleSharing
