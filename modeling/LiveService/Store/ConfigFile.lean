import LiveService.Files.Change
import LiveService.Json.Format

/-!
The configuration file.  A reader tolerates a writer at work: content that is blank is looked at again
a few times before it counts as empty.  Content that cannot be used is kept beside the file.
-/

namespace LiveService

inductive Reading (Config : Type) where
  | parsed (value : Config)
  | invalid (raw : Bytes) (error : Json.DocumentError)
  | empty

namespace ConfigFile

variable {Config : Type}

def readAttempts : Nat := 5

/-- Reads the contents that a reader would see one after the other, up to the first that counts. -/
def readSeen (format : Format Config) :
    List (Except IoError Bytes) → Except IoError (Reading Config)
  | [] => .ok .empty
  | .error error :: _ => .error error
  | .ok content :: later =>
    if content.all Text.isAsciiBlank then readSeen format later
    else
      match format.decode content with
      | .ok value => .ok (.parsed value)
      | .error error => .ok (.invalid content error)

def readChanging (format : Format Config) (seen : Nat → Except IoError Bytes) :
    Except IoError (Reading Config) :=
  readSeen format ((List.range readAttempts).map seen)

def read (format : Format Config) (files : FileSystem) (path : Path) :
    Except IoError (Reading Config) :=
  readChanging format fun _ => files.read path

def write (files : FileSystem) (path : Path) (content : Bytes) :
    FileSystem × Except IoError Unit :=
  match files.createParents path with
  | (files, .error error) => (files, .error error)
  | (files, .ok ()) =>
    match files.write path content with
    | .ok files => (files, .ok ())
    | .error error => (files, .error error)

def rejectedPath (path : Path) : Path := path.append ".badconfig"

def quarantine (files : FileSystem) (path : Path) (content : Bytes) :
    Except IoError FileSystem :=
  files.write (rejectedPath path) content

end ConfigFile

end LiveService
