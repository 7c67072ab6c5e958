import PostalRegions.CommandLine.Arguments
import PostalRegions.Configuration.Loading
import PostalRegions.Dataset.Basic
import PostalRegions.Dataset.Import
import PostalRegions.Http.Client

/-!
# Running commands

What a command does to the files, and how the program ends.  Paths that do not start with a slash
are followed from the working folder.  Serving ends at once where there is nothing to listen on.
-/

namespace PostalRegions

def Fetcher.unreachable : Fetcher where
  archive _ _ := ⟨(Http.Link.unreachable.fetch).2, 0⟩
  listing _ _ := ⟨(Http.Link.unreachable.fetchListing).2, 0⟩

/-- The settings with their paths followed from a folder. -/
def Settings.settledIn {κ : Type} (folder : String) (settings : Settings κ) : Settings κ :=
  { settings with
    dataFolder := Storage.join folder settings.dataFolder
    estimateFile := Storage.join folder settings.estimateFile }

namespace CommandLine

inductive Ending where
  | success
  | failure
  | misuse
deriving DecidableEq, Repr

def Ending.code : Ending → Nat
  | .success => 0
  | .failure => 1
  | .misuse => 2

/-- The command with its paths followed from a folder. -/
def Command.settledIn (folder : String) : Command → Command
  | .serve => .serve
  | .importEstimates file snapshot =>
    .importEstimates (Storage.join folder file) (snapshot.map (Storage.join folder))

variable {κ : Type} [Confidence κ] [DatabaseFormat κ]

def configurationFile (folder : String) (directory : DataDirectory κ) (path : Option String) :
    Settings.File :=
  match path with
  | none => .unnamed
  | some path =>
    match directory.file? (Storage.join folder path) with
    | some (content, _) => .present content.toBytes
    | none => .absent

/-- Runs a command.  Serving rebuilds the dataset and then fails, as there is no connection to
listen on. -/
def runCommand (settings : Settings κ) (fetcher : Fetcher) (directory : DataDirectory κ)
    (wall : WallClock) : Command → DataDirectory κ × Ending
  | .serve => ((settings.rebuild fetcher directory 0 wall).directory, .failure)
  | .importEstimates file snapshot =>
    let content := (directory.file? file).map fun (content, _) => content.toBytes
    let path := snapshot.getD settings.snapshotPath
    match importEstimates directory path settings.confidenceTable content (wall 0) with
    | (directory, .ok _) => (directory, .success)
    | (directory, .error _) => (directory, .failure)

def run (fetcher : Fetcher) (arguments : List String) (environment : List (String × String))
    (folder : String) (directory : DataDirectory κ) (wall : WallClock) :
    DataDirectory κ × Ending :=
  match Invocation.parse arguments with
  | .error .informed => (directory, .success)
  | .error .misused => (directory, .misuse)
  | .ok invocation =>
    let file := configurationFile folder directory invocation.configuration
    let loaded : Except SettingsError (Settings κ) := Settings.load file environment
    match loaded with
    | .error _ => (directory, .failure)
    | .ok settings =>
      runCommand (settings.settledIn folder) fetcher directory wall
        (invocation.command.settledIn folder)

end CommandLine

end PostalRegions
