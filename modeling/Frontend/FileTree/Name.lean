import Frontend.Path.Name
import Frontend.Text.Utf8

/-!
# Names in directories

A directory lists names of bytes. Nearly all of them are texts; the bytes of the others are not UTF-8.
No path leads to such a name, since paths are texts, but a directory still lists it. It is read with
the bytes that are no text replaced, and so is what stands before its last dot, and what stands
behind it.
-/

namespace Frontend

/-- A name that is no text: its bytes are not UTF-8, and none of them is a slash. -/
structure StrayName where
  bytes : List UInt8
  notText : ¬ bytes.toByteArray.IsValidUTF8
  whole : 0x2F ∉ bytes
deriving DecidableEq

/-- The name of an entry in its directory. -/
inductive FileName where
  | text (name : String)
  | stray (name : StrayName)
deriving DecidableEq

namespace FileName

/-- The name as a text, with what is no text in it replaced. -/
def shown : FileName → String
  | .text name => name
  | .stray name => Text.Utf8.decode name.bytes

/-- Splits a file name at its last dot, as it stands in the directory, and reads both parts. -/
def splitExtension : FileName → String × Option String
  | .text name => Path.splitExtension name
  | .stray name =>
      let (stem, extension) := Path.cutAtLast 0x2E name.bytes
      (Text.Utf8.decode stem, extension.map Text.Utf8.decode)

end FileName

end Frontend
