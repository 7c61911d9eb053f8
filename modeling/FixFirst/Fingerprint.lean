import FixFirst.Config
import FixFirst.Digest.Sha256
import FixFirst.Json.Printer

/-!
# Fingerprints

The fingerprint of an engine is a digest of everything that decides about its findings: its name,
its settings, and the configuration files of the tools that stand at the root of the project.
-/

namespace FixFirst

/-- The files that tools take their configuration from, in the order of their digestion. -/
def toolConfigFiles : List String :=
  ["pyproject.toml", "ruff.toml", ".ruff.toml", "mypy.ini", ".mypy.ini", "setup.cfg"]

/-- The name and the contents of a configuration file, and nothing if there is no such file. -/
def Disk.toolConfig (disk : Disk) (root : Path) (name : String) : Except Fault (List UInt8) := do
  let path := root.under (Path.ofText name)
  if ← disk.isFile path then
    match disk.read? path with
    | some contents => return Digest.textBytes name ++ contents
    | none => throw (.denied s!"{path.text} cannot be read")
  else return []

/-- What a fingerprint is a digest of. -/
def Config.traits {τ : Type} (config : Config τ) (disk : Disk) (root : Path) (name : String) :
    Except Fault (List UInt8) := do
  let settings ← config.engine name
  let files ← toolConfigFiles.mapM (disk.toolConfig root)
  return Digest.textBytes name ++ Digest.textBytes (Json.compactOpen (EngineConfig.schema.write settings)) ++
    files.flatten

/-- The fingerprint of an engine. -/
def Config.fingerprint {τ : Type} (config : Config τ) (disk : Disk) (root : Path) (name : String) :
    Except Fault String := do
  return Digest.Sha256.hexDigest (← config.traits disk root name)

end FixFirst
