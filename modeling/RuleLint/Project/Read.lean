/-
RuleLint/Project/Read.lean

Which files of a project are looked at, and what is in them.  The sources below a
directory are the files with the extension `.py`, at any depth; they are read in order
of their paths.  A file is read as text: its bytes are UTF-8, and every way to end a
line becomes a line feed.
-/
import RuleLint.Fault

namespace RuleLint.Project

/-! ### Sources of a directory -/

/-- Whether a name is that of a source. -/
def isSource (name : String) : Bool :=
  Path.extension name = ".py"

mutual

/-- The paths of the sources below an item, which has a path itself. -/
def Item.sources (path : String) : Item → List String
  | .file _ => []
  | .directory items => items.sources path
termination_by structural item => item

/-- The paths of the sources among items in a directory with a path, and below them. -/
def Items.sources (path : String) : Items → List String
  | .nil => []
  | .cons name item rest =>
    let below := item.sources (Path.join path name)
    let own := if !item.isDirectory && isSource name then [Path.join path name] else []
    own ++ below ++ rest.sources path
termination_by structural items => items

end

/-- The paths of the sources below a directory; what is no directory has none. -/
def Files.sources (fs : Files) (path : String) : List String :=
  match fs.find path with
  | .ok item => item.sources path
  | .error _ => []

/-! ### Reading -/

/-- The text of a file. -/
def Files.readText (fs : Files) (path : String) : Except Fault String :=
  match fs.readBytes path with
  | .error cause => .error (.file cause path)
  | .ok bytes => match Text.decodeUtf8 bytes with
    | .error e => .error (.undecodable e)
    | .ok cs => .ok (String.ofList (Text.unixNewlines cs))

/-- The number of bytes that are read at a time from a file that is not read as a
whole. -/
def chunkSize : Nat := 8192

/-- The bytes at the end of which a character is not finished yet. -/
def unfinished (bytes : List UInt8) : List UInt8 :=
  match Text.decodeUtf8 bytes with
  | .error e => if e.cause = .unexpectedEnd then bytes.drop e.start else []
  | .ok _ => []

/-- Decodes bytes chunk by chunk: a place in an error counts from the chunk that it is
in.  `carried` is the beginning of a character from the chunk before, and `n` bounds the
number of chunks. -/
def decodeChunks (carried : List UInt8) :
    Nat → List UInt8 → Except Text.Utf8Error (List Char)
  | 0, _ => .ok []
  | n + 1, bytes =>
    let chunk := carried ++ bytes.take chunkSize
    let rest := bytes.drop chunkSize
    if bytes.isEmpty then Text.decodeUtf8 chunk
    else
      let owed := unfinished chunk
      match Text.decodeUtf8 (chunk.take (chunk.length - owed.length)) with
      | .error e => .error e
      | .ok cs => (decodeChunks owed n rest).map (cs ++ ·)

/-- The text of a file that is read chunk by chunk. -/
def Files.readStream (fs : Files) (path : String) : Except Fault String :=
  match fs.readBytes path with
  | .error cause => .error (.file cause path)
  | .ok bytes => match decodeChunks [] (bytes.length / chunkSize + 2) bytes with
    | .error e => .error (.undecodable e)
    | .ok cs => .ok (String.ofList (Text.unixNewlines cs))

/-- Paths in order. -/
def inPathOrder (paths : List String) : List String :=
  paths.mergeSort (· ≤ ·)

/-- The texts of files, in order of their paths. -/
def Files.readAll (fs : Files) (paths : List String) :
    Except Fault (List (String × String)) :=
  (inPathOrder paths).mapM fun path => do return (path, ← fs.readText path)

end RuleLint.Project
