/-!
Contract: what can be set for a root module.

Owns: the settings and what they are where nothing is set.
Does not own: how settings are written.
-/

namespace Traceability

structure Settings where
  /-- Whether the model is narrowed to what the root may see. -/
  filter : Bool
  requirementsFile : String
  casesFile : String
  resultsFile : String
  annotationsFile : String
  testRunFile : String
deriving DecidableEq, Repr

/-- The settings where nothing is set. -/
def Settings.standard : Settings where
  filter := true
  requirementsFile := "requirements.yml"
  casesFile := "software_verification_cases.yml"
  resultsFile := "manual_verification_results.yml"
  annotationsFile := "annotations.yml"
  testRunFile := "test_results.yml"

/-- The file in the directory of a root module that may hold its settings. -/
def Settings.fileName : String := "reqtrace.toml"

end Traceability
