import PostalRegions.CommandLine.Run

/-!
# The files of a run

Which files a run may read or write.  A run over a directory of these files alone does what a run
over all files would do.
-/

namespace PostalRegions.CommandLine

/-- Files, and a folder of which all files are meant. -/
structure WorkingFiles where
  paths : List String
  folder : Option String

def configurationPath? (arguments : List String) : Option String :=
  (Invocation.parse arguments).toOption.bind Invocation.configuration

def WorkingFiles.ofCommand {κ : Type} (settings : Settings κ) : Command → WorkingFiles
  | .serve => ⟨[settings.estimateFile, settings.snapshotPath], some settings.archiveFolder⟩
  | .importEstimates file snapshot => ⟨[file, snapshot.getD settings.snapshotPath], none⟩

/-- The files of a run in a working folder, given a directory with the configuration file. -/
def WorkingFiles.ofArguments {κ : Type} [Confidence κ] [DatabaseFormat κ]
    (arguments : List String) (environment : List (String × String)) (folder : String)
    (directory : DataDirectory κ) : Option WorkingFiles := do
  let invocation ← (Invocation.parse arguments).toOption
  let file := configurationFile folder directory invocation.configuration
  let settings : Settings κ ← (Settings.load file environment).toOption
  return .ofCommand (settings.settledIn folder) (invocation.command.settledIn folder)

end PostalRegions.CommandLine
