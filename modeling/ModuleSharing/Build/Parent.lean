import ModuleSharing.Build.Mode
import ModuleSharing.Files.Path

/-!
# Parent builds

A build of the project that child builds can run next to.
-/

namespace ModuleSharing

open Json

/-- Where a build writes to. -/
structure OutputOptions where
  path : String
  filename : String := "[name].js"
  chunkFilename : String := "[name].js"
  libraryType : Option String := none
deriving DecidableEq, Repr

namespace OutputOptions

def record : Record OutputOptions :=
  OutputOptions.mk <$> .required "path" .text <*> .required "filename" .text
    <*> .required "chunkFilename" .text <*> .optional "libraryType" .text

def decoder : Decoder OutputOptions := record.decoder "OutputOptions" .ignored

end OutputOptions

structure ParentBuild where
  name : String
  mode : BuildMode
  /-- The project's folder. -/
  contextDir : String
  output : OutputOptions
deriving DecidableEq, Repr

namespace ParentBuild

/-- A build that writes into the project's folder `dist`. -/
def ofProject (name : String) (mode : BuildMode) (contextDir : String) : ParentBuild where
  name
  mode
  contextDir
  output := { path := Path.join contextDir "dist" }

def isDevelopment (b : ParentBuild) : Bool := b.mode.isDevelopment

def isServer (b : ParentBuild) : Bool := b.name == "server"

end ParentBuild

end ModuleSharing
