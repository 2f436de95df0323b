import Nullability.FileTree.Access
import Nullability.Log.Basic
import Nullability.Settings.ConfigText

/-!
Writing a configuration file that says the defaults.
-/

namespace Nullability.Config

/-- The text of a new configuration file. -/
def template : String := "# recbuild configuration

[classification]
# \"collect-all\" reports every conflicting component; \"fail-fast\" stops at the first
failure_policy = \"collect-all\"
parallel = true

[records]
# Only structs carrying this attribute or derive are treated as records.
# Leave unset to treat every struct as a record.
# marker = \"RecordBuilder\"

[output]
default_format = \"terminal\"
"

/-- Why no configuration file was written. -/
inductive TemplateFault
  | alreadyThere
  | system (cause : SystemError)
  deriving DecidableEq, Repr

def TemplateFault.message : TemplateFault → String
  | alreadyThere => "Configuration file already exists. Use --force to overwrite."
  | system cause => cause.message

/-- What has been written: the file tree, the path of the file, and the lines that are logged. -/
structure TemplateWritten where
  tree : FileTree
  path : String
  log : Logged

/-- Writes a new configuration file in a directory. One that exists is written over only if that is
forced. -/
def writeTemplate (t : FileTree) (cwd : Location) (directory : String) (force : Bool) :
    Except TemplateFault TemplateWritten :=
  let path := Path.join directory fileName
  if t.exists? cwd path && !force then .error .alreadyThere
  else
    match t.writeText cwd path template with
    | .error cause => .error (.system cause)
    | .ok tree => .ok ⟨tree, path, [⟨.debug, .template, "Wrote " ++ path⟩]⟩

/-- What is said about a file that has been written. -/
def TemplateWritten.text (w : TemplateWritten) : String := "Created " ++ w.path ++ " configuration file\n"

end Nullability.Config
