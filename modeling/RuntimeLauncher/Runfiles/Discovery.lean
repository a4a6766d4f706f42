import RuntimeLauncher.Environment
import RuntimeLauncher.Runfiles.Basic

/-! Finding the runfiles of a launcher from its environment, its path and its working directory. -/
namespace RuntimeLauncher

namespace Variables

def runfilesDirectory : Text := "RUNFILES_DIR".toList

def runfilesManifest : Text := "RUNFILES_MANIFEST_FILE".toList

def manifestOnly : Text := "RUNFILES_MANIFEST_ONLY".toList

end Variables

namespace Runfiles

def suffix : Text := ".runfiles".toList

def manifestName : Text := "MANIFEST".toList

def besides (exe : Path) : Path := exe ++ suffix

/-- `foo.runfiles_manifest` is for the directory `foo.runfiles`, any other manifest for the one it
is in. -/
def ownerOf (manifest : Path) : Path :=
  match stripEnd "_manifest".toList manifest with
  | some front => front
  | none => (Path.parent manifest).getD manifest

/-- The first of these that there is: the directory the environment names, the owner of the manifest
it names, the directory beside the executable, the working directory up to its first `.runfiles`;
and failing all of them the place beside the executable. -/
def chooseDirectory (fs : FileSystem) (exe : Path) (cwd : Option Path) (env : Variables) : Path :=
  match env.nonempty Variables.runfilesDirectory with
  | some directory => directory
  | none =>
    match env.nonempty Variables.runfilesManifest with
    | some manifest => ownerOf manifest
    | none =>
      if fs.isDirectory (besides exe) then besides exe
      else (cwd.bind (throughFirst suffix)).getD (besides exe)

def chooseManifest (directory : Path) (env : Variables) : Path :=
  (env.nonempty Variables.runfilesManifest).getD (Path.join directory manifestName)

/-- Whether lookups go through the manifest: when that is asked for, or when there is a manifest and
no directory. -/
def usesManifest (fs : FileSystem) (directory manifest : Path) (env : Variables) : Bool :=
  env.nonempty Variables.manifestOnly == some ['1'] ||
    (!fs.isDirectory directory && fs.isFile manifest)

def discover (fs : FileSystem) (exe : Path) (cwd : Option Path) (env : Variables) : Runfiles :=
  let directory := chooseDirectory fs exe cwd env
  let manifest := chooseManifest directory env
  if usesManifest fs directory manifest env then ofManifest fs directory manifest
  else ofDirectory directory

def discoveryEvents (fs : FileSystem) (exe : Path) (cwd : Option Path) (env : Variables) :
    List Event :=
  let found := discover fs exe cwd env
  (match found.manifestFile with
    | none => []
    | some manifest => manifestEvents fs manifest) ++
    [.runfilesLocated found.directory found.manifestFile]

end Runfiles

end RuntimeLauncher
