import Frontend.Compilation.Basic
import Frontend.FileTree.Edit

/-!
# The cache directory

Generated files go into a directory of their own, beside the other output if an output directory
was set, and in the project otherwise. It is made when a file is to be written into it.
-/

namespace Frontend

/-- A cache directory that could not be made. -/
structure CacheError where
  path : Path
  reason : FileError
deriving DecidableEq, Repr

/-- The text of the failure. -/
def CacheError.message (error : CacheError) : String :=
  "cannot create cache directory " ++ error.path.text ++ ": " ++ error.reason.message

namespace Compilation

/-- The name of the cache directory unless another was set. -/
def defaultCacheName : String :=
  "nimcache"

/-- The cache directory. -/
def cacheDirectory (compilation : Compilation) : Path :=
  match compilation.chosenCacheDir with
  | some directory => directory
  | none =>
      (compilation.outputDir.getD compilation.resolver.project).join ⟨defaultCacheName⟩

/-- The path of a generated file. With `create` the cache directory is made unless it exists. -/
def generatedFile (compilation : Compilation) (tree : FileTree) (name : String) (create : Bool) :
    Except CacheError Path × FileTree :=
  let directory := compilation.cacheDirectory
  let file := directory.join ⟨name⟩
  if create && !tree.isDirectory directory then
    match tree.makeDirectories directory with
    | (none, made) => (.ok file, made)
    | (some reason, made) => (.error ⟨directory, reason⟩, made)
  else (.ok file, tree)

end Compilation

end Frontend
