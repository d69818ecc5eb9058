/-!
# Files

The files a program can read: named byte contents and named directories in one working
directory. Reading a name that is neither fails as opening a missing file does; reading a
directory fails as reading one does.

* `TopicBridge.Host.Files.read`.
-/

namespace TopicBridge.Host

/-- The files and directories of a working directory. -/
structure Files where
  /-- The files, by name. -/
  files : List (String × ByteArray) := []
  /-- The directories, by name. -/
  dirs : List String := []
  deriving Inhabited

namespace Files

/-- The failure of opening a missing file. -/
def missing (name : String) : String := "open " ++ name ++ ": no such file or directory"

/-- The contents of a file, or why it cannot be read. -/
def read (fs : Files) (name : String) : Except String ByteArray :=
  match fs.files.find? (·.1 == name) with
  | some (_, b) => .ok b
  | none => if fs.dirs.contains name then .error ("read " ++ name ++ ": is a directory")
    else .error (missing name)

/-- Whether a name is a file or a directory. -/
def has (fs : Files) (name : String) : Bool :=
  fs.files.any (·.1 == name) || fs.dirs.contains name

end Files

end TopicBridge.Host
