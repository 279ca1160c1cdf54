import ModuleSharing.Build.Parent
import ModuleSharing.Child.Plugin
import ModuleSharing.Child.Target
import ModuleSharing.Federation
import ModuleSharing.Text.Split

/-!
# Specifications of child builds

A child build compiles the container next to a parent build.  Its specification follows from the
parent's output settings and the container's configuration: the child shares what the configuration
shares and, unless told otherwise, the framework's own modules.
-/

namespace ModuleSharing

open Json

/-- Where a child build writes to. -/
structure ChildOutput where
  path : String
  publicPath : String
  chunkLoadingGlobal : String
  uniqueName : String
  library : Library
  filename : String
  chunkFilename : String
deriving DecidableEq, Repr

structure ChildSpec where
  target : BuildTarget
  name : String
  mode : BuildMode
  /-- The folder that the child resolves modules from. -/
  contextDir : String
  output : ChildOutput
  federation : Federation
  plugins : List ChildPlugin
  lazyCompilation : Bool := false
  runtimeChunk : Bool := false
  inheritSplitChunks : Bool := false
deriving BEq

namespace ChildSpec

/-! ## Framework modules -/

/-- Framework modules that are shared as singletons and never brought along. -/
def frameworkShares : List String :=
  ["next/dynamic", "next/head", "next/image", "next/link", "next/router", "next/script", "react",
    "react-dom", "react/jsx-dev-runtime", "react/jsx-runtime", "styled-jsx"]

/-- Framework modules that a server has to bundle. -/
def serverBundled : List String := ["next/dynamic"]

/-- What a server leaves outside of its bundle. -/
def serverExternals : List String := frameworkShares.filter fun key => !serverBundled.contains key

/-- The options that a framework module is shared with. -/
def frameworkOptions : Json :=
  .object [("singleton", .bool true), ("requiredVersion", .bool false), ("import", .bool false)]

/-! ## Parts of a specification -/

/-- A path up to its first segment `server`. -/
def outputRoot (path : String) : String :=
  Path.ofComponents ((Path.components path).takeWhile (· != "server"))

/-- The file that remote containers load; a server has it without folders. -/
def remoteFilename (target : BuildTarget) (filename : String) : String :=
  if target.isServer then (Path.fileName? filename).getD filename else filename

/-- Marks the name of a file of the container. -/
def federatedFilename (mode : BuildMode) (filename : String) : String :=
  let mark := if mode.isDevelopment then "-fed.js" else "[contenthash]-fed.js"
  match Text.cutAt ".js".toList filename.toList with
  | some (before, after) => String.ofList (before ++ mark.toList ++ after)
  | none => filename

/-- Later members replace earlier ones in their places. -/
def mergeMembers (members later : List (String × Json)) : List (String × Json) :=
  later.foldl (fun known (k, v) => setMember k v known) members

/-- The entry that a request stands for. -/
def requestEntry (request : String) : String × Json :=
  ((Specifier.packageName? request).getD request, .string request)

/-- The strings among some values. -/
def strings (items : List Json) : List String :=
  items.filterMap fun
    | .string s => some s
    | _ => none

/-- A section `shared` by keys. -/
def sharedMembers : Option Json → List (String × Json)
  | some (.object members) => members
  | some (.array items) => mergeMembers [] ((strings items).map requestEntry)
  | some (.string request) => [requestEntry request]
  | _ => []

/-- What a child shares. -/
def childShared (f : Federation) : List (String × Json) :=
  mergeMembers
    (if f.skipSharingNextInternals then []
      else frameworkShares.map fun key => (key, frameworkOptions))
    (sharedMembers f.shared)

/-- What a child exposes; `stamp` makes clients of a development server load it anew. -/
def childExposes (target : BuildTarget) (mode : BuildMode) (stamp : Nat) (f : Federation) :
    List (String × Json) :=
  let own :=
    if target.isServer && mode.isDevelopment then
      [("./buildHash", .string ("data:text/javascript,export default " ++ toString stamp))]
    else []
  mergeMembers own f.exposes

/-- Names and locations of remote containers as one text. -/
def remotesText (remotes : List (String × Json)) : String :=
  let location : Json → String
    | .string s => s
    | other => other.compact
  (Json.object (remotes.map fun (name, l) => (name, .string (location l)))).compact

def pluginsFor (target : BuildTarget) (name libraryType : String) (f : Federation) :
    List ChildPlugin :=
  match target with
  | .client =>
    [.moduleFederation, .jsonpTemplate, .loaderTarget "web", .library libraryType,
      .define (.ofList
        [("process.env.REMOTES", remotesText f.remotes),
          ("process.env.CURRENT_HOST", (Json.string name).compact)]),
      .promiseExternalRuntime]
  | .server =>
    [.nodeFederation, .nodeTemplate, .externals serverExternals, .streamingTarget,
      .library libraryType, .promiseExternalRuntime]

/-! ## The specification -/

/-- The specification of the child of a parent build. -/
def derive (parent : ParentBuild) (f : Federation) (stamp : Nat) : ChildSpec :=
  let target := BuildTarget.ofBuildName parent.name
  let name := f.containerName
  let libraryType :=
    ((f.library.map Library.kind) <|> parent.output.libraryType).getD "var"
  { target
    name
    mode := parent.mode
    contextDir := parent.contextDir
    output :=
      { path :=
          if target.isServer then
            Path.join (Path.join (outputRoot parent.output.path) "static") "ssr"
          else parent.output.path
        publicPath := "auto"
        chunkLoadingGlobal := name ++ "chunkLoader"
        uniqueName := name
        library := { name := some name, kind := libraryType }
        filename := federatedFilename parent.mode parent.output.filename
        chunkFilename := federatedFilename parent.mode parent.output.chunkFilename }
    federation :=
      { f with
        filename := some (remoteFilename target f.remoteEntry)
        exposes := childExposes target parent.mode stamp f
        shared := some (.object (childShared f)) }
    plugins := pluginsFor target name libraryType f }

/-- The descriptors of all declarations of a child. -/
def normalize (s : ChildSpec) (files : Files) : Except ConfigError (List ShareDescriptor) :=
  s.federation.normalize files s.contextDir

/-- What is left outside of the bundle. -/
def externals (s : ChildSpec) : List String :=
  (s.plugins.findSome? fun
    | .externals modules => some modules
    | _ => none).getD []

/-! ## Stored form -/

def outputToJson (o : ChildOutput) : Json :=
  .object
    [("path", .string o.path), ("publicPath", .string o.publicPath),
      ("chunkLoadingGlobal", .string o.chunkLoadingGlobal), ("uniqueName", .string o.uniqueName),
      ("library", o.library.toJson), ("filename", .string o.filename),
      ("chunkFilename", .string o.chunkFilename)]

def toJson (s : ChildSpec) : Json :=
  .object
    [("target", .string s.target.name), ("name", .string s.name), ("mode", .string s.mode.name),
      ("contextDir", .string s.contextDir), ("output", outputToJson s.output),
      ("federation", s.federation.toJson), ("plugins", .array (s.plugins.map ChildPlugin.toJson)),
      ("lazyCompilation", .bool s.lazyCompilation), ("runtimeChunk", .bool s.runtimeChunk),
      ("inheritSplitChunks", .bool s.inheritSplitChunks)]

def outputRecord : Record ChildOutput :=
  ChildOutput.mk <$> .required "path" .text <*> .required "publicPath" .text
    <*> .required "chunkLoadingGlobal" .text <*> .required "uniqueName" .text
    <*> .required "library" (Library.decoder .ignored) <*> .required "filename" .text
    <*> .required "chunkFilename" .text

def record : Record ChildSpec :=
  ChildSpec.mk <$> .required "target" BuildTarget.decoder <*> .required "name" .text
    <*> .required "mode" BuildMode.decoder <*> .required "contextDir" .text
    <*> .required "output" (outputRecord.decoder "ChildOutput" .ignored)
    <*> .required "federation" (Federation.decoder .ignored)
    <*> .required "plugins" (.list ChildPlugin.decoder)
    <*> .required "lazyCompilation" .bool <*> .required "runtimeChunk" .bool
    <*> .required "inheritSplitChunks" .bool

def decoder : Decoder ChildSpec := record.decoder "ChildBuildSpec" .ignored

def parse (content : String) : Except DecodeError ChildSpec := decodeText decoder content

end ChildSpec

end ModuleSharing
