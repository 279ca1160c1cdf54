import ModuleSharing.Bundle.Chunks
import ModuleSharing.Json.Decode
import ModuleSharing.Registry.Loader

/-!
# Generated code

Expressions of generated code, with the runtime globals that they need.  A text from outside gets
into an expression only as a string literal, which reads back as that text, or inside a block
comment, which it cannot end.
-/

namespace ModuleSharing

open Json

/-- Globals that generated code can need. -/
inductive RuntimeGlobal where
  | require
  | ensureChunk
  | shareScopeMap
  | initializeSharing
deriving DecidableEq, Repr

namespace RuntimeGlobal

def all : List RuntimeGlobal := [require, ensureChunk, shareScopeMap, initializeSharing]

def name : RuntimeGlobal → String
  | require => "__webpack_require__"
  | ensureChunk => "__webpack_require__.e"
  | shareScopeMap => "__webpack_require__.S"
  | initializeSharing => "__webpack_require__.I"

def chars (g : RuntimeGlobal) : List Char := g.name.toList

end RuntimeGlobal

/-- An expression and the globals it needs. -/
structure Snippet where
  code : List Char
  needs : List RuntimeGlobal := []
deriving DecidableEq, Repr

namespace Snippet

def text (s : Snippet) : String := String.ofList s.code

/-- The globals it needs, each once and in their own order. -/
def requirements (s : Snippet) : List RuntimeGlobal := RuntimeGlobal.all.filter s.needs.contains

end Snippet

namespace Code

/-! ## Texts from outside -/

/-- A string literal. -/
def literal (s : String) : List Char := writeString s []

/-- Parts what would end a block comment. -/
def softened : List Char → List Char
  | [] => []
  | '*' :: '/' :: cs => '*' :: '_' :: '/' :: softened cs
  | c :: cs => c :: softened cs

def comment (s : String) : List Char := "/*! ".toList ++ softened s.toList ++ " */".toList

/-! ## Expressions -/

def returning (body : List Char) : List Char := "() => (".toList ++ body ++ [')']

/-- Throws because a module cannot be found. -/
def missingModule (request : String) : Snippet where
  code :=
    "Object(function webpackMissingModule() \x7b var e = new Error(".toList ++
      literal ("Cannot find module '" ++ request ++ "'") ++
      "); e.code = 'MODULE_NOT_FOUND'; throw e; \x7d())".toList

/-- Requires the module with the given id. -/
def reference (request id : String) : Snippet where
  code := RuntimeGlobal.require.chars ++ '(' :: comment request ++ ' ' :: literal id ++ [')']
  needs := [.require]

/-- Requires a module, or throws if it has no id. -/
def moduleRaw (g : ChunkGraph) (request : String) : Snippet :=
  (g.moduleId? request).elim (missingModule request) (reference request)

def ensure (chunk : String) : List Char :=
  RuntimeGlobal.ensureChunk.chars ++ '(' :: literal chunk ++ [')']

/-- A promise that is kept once all chunks are loaded. -/
def blockPromise : List String → Snippet
  | [] => { code := "Promise.resolve()".toList }
  | [chunk] => { code := ensure chunk, needs := [.ensureChunk] }
  | chunks =>
    { code := "Promise.all([".toList ++ ", ".toList.intercalate (chunks.map ensure) ++ "])".toList
      needs := [.ensureChunk] }

/-- A factory that returns the module. -/
def syncFactory (g : ChunkGraph) (request : String) : Snippet :=
  let module := moduleRaw g request
  { module with code := returning module.code }

/-- A factory that returns a factory of the module, or a promise of one if chunks have to be loaded.
-/
def asyncFactory (g : ChunkGraph) (request : String) : Snippet :=
  let factory := syncFactory g request
  match g.chunksOf request with
  | [] => { factory with code := returning factory.code }
  | chunks =>
    let loaded := blockPromise chunks
    { code := returning (loaded.code ++ ".then(".toList ++ returning factory.code ++ [')'])
      needs := loaded.needs ++ factory.needs }

def factory (g : ChunkGraph) (eager : Bool) (request : String) : Snippet :=
  if eager then syncFactory g request else asyncFactory g request

/-- Stands for a fallback that was not brought along. -/
def missingFallback (shareKey : String) : Snippet where
  code :=
    "() => () => \x7b throw new Error(".toList ++ literal ("Can not get '" ++ shareKey ++ "'") ++
      "); \x7d".toList

end Code

/-! ## Calls of loader functions -/

/-- A call of a loader function in generated code. -/
structure LoaderCall where
  function : Loader
  shareScope : String
  shareKey : String
  requiredVersion : Option String := none
  /-- The code of the fallback's factory. -/
  fallback : Option String := none
deriving DecidableEq, Repr

namespace LoaderCall

/-- The arguments in order: scope, key, range and fallback. -/
def arguments (c : LoaderCall) : List (List Char) :=
  [Code.literal c.shareScope, Code.literal c.shareKey] ++
    c.requiredVersion.elim [] (fun range => [Code.literal range]) ++
    c.fallback.elim [] fun code => [code.toList]

def chars (c : LoaderCall) : List Char :=
  c.function.name.toList ++ '(' :: ", ".toList.intercalate c.arguments ++ [')']

def text (c : LoaderCall) : String := String.ofList c.chars

private def loaderDecoder : Decoder Loader := fun d => do
  let name ← Decoder.text d
  match Loader.ofName? name with
  | some f => .ok f
  | none => .error (.mismatch ("unknown loader function " ++ Text.ticked name))

def toJson (c : LoaderCall) : Json :=
  .object <|
    [("function", .string c.function.name), ("shareScope", .string c.shareScope),
      ("shareKey", .string c.shareKey)] ++
    optional "requiredVersion" .string c.requiredVersion ++
    optional "fallback" .string c.fallback

def record : Record LoaderCall :=
  LoaderCall.mk <$> .required "function" loaderDecoder <*> .required "shareScope" .text
    <*> .required "shareKey" .text <*> .optional "requiredVersion" .text
    <*> .optional "fallback" .text

def decoder : Decoder LoaderCall := record.decoder "LoaderCall" .ignored

end LoaderCall

end ModuleSharing
