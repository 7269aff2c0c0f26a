import TokenClient.Settings.Basic
import TokenClient.Toml.Reader

/-! Settings in files. -/
namespace TokenClient.Settings

def defaultPath (home : String) : String := home ++ "/.evmos-token/config.toml"

/-- The settings in a file. Where there is no such file, the defaults hold. -/
def load (files : Storage) (path : String) : Except Failure Settings :=
  if files.isThere path then
    match files.read path with
    | .error fault => .error (.storage fault)
    | .ok text =>
      match (Toml.parse? text).bind ofToml? with
      | some settings => .ok settings
      | none => .error (.settingsUnreadable path)
  else .ok {}

/-- Writes the settings; the directories on the way to the file are made first. -/
def save (s : Settings) (files : Storage) (path : String) : Except Failure Unit × Storage :=
  match files.makeDirectories (Storage.names path).dropLast with
  | (.error fault, files) => (.error (.storage fault), files)
  | (.ok (), files) =>
    match s.document with
    | .error failure => (.error failure, files)
    | .ok text =>
      match files.write path (Bytes.ofString text) with
      | .error fault => (.error (.storage fault), files)
      | .ok files => (.ok (), files)

end TokenClient.Settings
