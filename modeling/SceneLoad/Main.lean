import SceneLoad.Command.Run

/-!
# The program

Reads the scene file that a command names and draws random keys, runs the program and prints what it
leaves behind.
-/

namespace SceneLoad

/-- The path of a command that reads a file. -/
def Command.file? : Command → Option String
  | .load path => some path
  | .prefabs path => some path
  | .capabilities => none

/-- Two hexadecimal digits of a byte. -/
def hexByte (byte : UInt8) : String :=
  let digits := Nat.toDigits 16 byte.toNat
  String.ofList (List.replicate (2 - digits.length) '0' ++ digits)

/-- Sixteen bytes as a random identifier of version 4. -/
def formatKey (bytes : List UInt8) : String :=
  let marked := bytes.mapIdx fun index byte =>
    if index = 6 then byte &&& 0x0f ||| 0x40 else if index = 8 then byte &&& 0x3f ||| 0x80 else byte
  let group (start count : Nat) : String :=
    String.join (((marked.drop start).take count).map hexByte)
  String.intercalate "-" [group 0 4, group 4 2, group 6 2, group 8 2, group 10 6]

/-- The keys that a block of random bytes holds, sixteen bytes each. -/
def keysOf (bytes : ByteArray) : KeySupply := fun n =>
  formatKey ((List.range 16).map fun offset => bytes.data.getD (16 * n + offset) 0)

/-- Reads a file once. -/
def readFileOnce (path : String) : IO (Except FileFault ByteArray) := do
  try
    return .ok (← IO.FS.readBinFile path)
  catch error =>
    match error with
    | .noFileOrDirectory .. => return .error .notFound
    | .noSuchThing .. => return .error .notFound
    | .inappropriateType .. => return .error .isDirectory
    | other => return .error (.other (toString other))

/-- Keys for a pass over the document in a file, which draws at most two an entity. -/
def drawKeys (files : Files) (path : String) : IO KeySupply := do
  let entities := match Document.readFile files path with
    | .ok document => document.entities.length
    | .error _ => 0
  return keysOf (← IO.getRandomBytes (.ofNat (32 * entities)))

end SceneLoad

open SceneLoad in
/-- Runs the program on the process's arguments and environment. -/
def main (arguments : List String) : IO UInt32 := do
  let path := match Invocation.parse arguments with
    | .ok (.run _ command) => command.file?.getD ""
    | _ => ""
  let content ← readFileOnce path
  let files : Files := fun _ => content
  let supply ← drawKeys files path
  let ending := Program.run files supply arguments (← IO.getEnv maxDepthVariable)
  IO.print ending.stdout
  IO.eprint ending.stderr
  return .ofNat ending.code
