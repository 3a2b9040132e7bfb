import GreedyPattern.Program

/-!
# Command line

Reads standard input or the files, runs the program on them, and prints what it
answers. Nothing is read before the arguments and the pattern are known to be in
order, and no file after one that cannot be read.
-/

namespace GreedyPattern

/-- The error with a number of the operating system, which some calls report negated. -/
def ReadError.ofCode (code : UInt32) (description : String) : ReadError :=
  match (if code < 0x80000000 then code else 0 - code).toNat with
  | 2 => .notFound
  | 21 => .isDirectory
  | n => .system description.capitalize n

def ReadError.ofError : IO.Error → ReadError
  | .noFileOrDirectory _ code details | .inappropriateType _ code details
  | .alreadyExists _ code details | .permissionDenied _ code details
  | .invalidArgument _ code details | .resourceExhausted _ code details
  | .noSuchThing _ code details | .interrupted _ code details | .otherError code details
  | .resourceBusy code details | .resourceVanished code details
  | .unsupportedOperation code details | .hardwareFault code details
  | .unsatisfiedConstraints code details | .illegalOperation code details
  | .protocolError code details | .timeExpired code details => .ofCode code details
  | .unexpectedEof => .ofCode 0 "unexpected end of file"
  | .userError message => .ofCode 0 message

def decodeBytes (bytes : ByteArray) : Except ReadError Text :=
  match String.fromUTF8? bytes with
  | some s => .ok s.toList
  | none => .error .notUtf8

partial def readStream (stream : IO.FS.Stream) (bytes : ByteArray) : IO ByteArray := do
  let chunk ← stream.read 65536
  if chunk.isEmpty then return bytes
  readStream stream (bytes ++ chunk)

def readStdin : IO (Except ReadError Text) := do
  match ← (readStream (← IO.getStdin) .empty).toBaseIO with
  | .ok bytes => return decodeBytes bytes
  | .error e => return .error (.ofError e)

def readFile (path : String) : IO (Except ReadError Text) := do
  match ← (IO.FS.readBinFile path).toBaseIO with
  | .ok bytes => return decodeBytes bytes
  | .error e => return .error (.ofError e)

/-- The files up to the first that cannot be read. -/
def readFiles : List String → IO (List (String × Except ReadError Text))
  | [] => return []
  | path :: paths => do
    match ← readFile path with
    | .error e => return [(path, .error e)]
    | .ok content => return (path, .ok content) :: (← readFiles paths)

def environment (args : List String) : IO Environment := do
  let terminal ← (← IO.getStdout).isTty
  match inputPaths? args with
  | none => return ⟨.ok [], fun _ => .error .notFound, terminal⟩
  | some [] => return ⟨← readStdin, fun _ => .error .notFound, terminal⟩
  | some paths =>
    let files ← readFiles paths
    return ⟨.ok [], fun path => (files.lookup path).getD (.error .notFound), terminal⟩

end GreedyPattern

open GreedyPattern in
def main (args : List String) : IO UInt32 := do
  let done := runProgram args (← environment args)
  IO.print (String.ofList done.stdout)
  (← IO.getStdout).flush
  IO.eprint done.stderr
  return done.code.toUInt32
