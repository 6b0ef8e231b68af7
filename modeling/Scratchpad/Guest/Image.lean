import Scratchpad.Guest.Run
import Scratchpad.Text.Blank

/-!
# Images of an interpreter

An image is what is found at the place where an interpreter should be: a program, or bytes that are
none. A place that begins with a web scheme is fetched; any other names a file.
-/
namespace Scratchpad.Guest

/-- What the bytes of an image turn out to be. -/
inductive Image where
  | program (program : Program)
  | malformed

/-- The bytes of the empty binary module. -/
def emptyModule : List UInt8 := [0x00, 0x61, 0x73, 0x6D, 0x01, 0x00, 0x00, 0x00]

/-- The characters of the empty module in text form. -/
def emptyModuleText : List Char := "(module)".toList

/-- The image of plain bytes: the empty module in either form, or no module. -/
def Image.ofBytes (bytes : List UInt8) : Image :=
  let text := Text.trimChars (Text.Utf8.decodeLossy bytes)
  if bytes = emptyModule || text = emptyModuleText then .program .bare else .malformed

/-- What a file system or the network gives for a place. -/
inductive Fetched where
  | image (image : Image)
  /-- There is no file. -/
  | absent
  /-- There is something that cannot be read as a file. -/
  | unreadable (detail : String)
  /-- The network failed. -/
  | unreachable (detail : String)

/-- `executor::wasm::is_remote` — whether a place is fetched from the network. -/
def isRemote (location : String) : Bool :=
  "http://".toList.isPrefixOf location.toList || "https://".toList.isPrefixOf location.toList

/-- `WasmInterpreter::load` — load the interpreter from what its place gives. -/
def load (location : String) : Fetched → Except Failure Program
  | .image (.program program) => .ok program
  | .image .malformed => .error (.load "failed to compile module: not a module")
  | .absent => .error (.interpreterMissing location)
  | .unreadable detail => .error (.io detail)
  | .unreachable detail => .error (.transport detail)

/-- The longest name of a file, in bytes. -/
def maxNameBytes : Nat := 255

/-- The longest path, in bytes. -/
def maxPathBytes : Nat := 4095

/-- The components of a path. -/
def components (path : String) : List String := path.splitOn "/"

/-- Whether a path names the current directory or one above it. -/
def namesDirectory (path : String) : Bool :=
  let parts := (components path).filter (· ≠ "")
  !parts.isEmpty && parts.all (fun part => part = "." || part = "..") &&
    !"/".toList.isPrefixOf path.toList

/-- What a file system that holds no file gives for a path. -/
def emptyFileSystem (path : String) : Fetched :=
  if path.toList.contains (Char.ofNat 0) then
    .unreadable "file name contained an unexpected NUL byte"
  else if path.utf8ByteSize > maxPathBytes ||
      (components path).any (fun part => part.utf8ByteSize > maxNameBytes) then
    .unreadable "File name too long (os error 36)"
  else if namesDirectory path then .unreadable "Is a directory (os error 21)"
  else .absent

end Scratchpad.Guest
