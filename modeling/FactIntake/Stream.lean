import FactIntake.Fault.Draft

/-!
Streams of text or of bytes. A stream holds what has not been read yet; reading takes all of it. A
closed stream refuses to be read, and a broken one fails whenever it is read.
-/

namespace FactIntake

inductive Content
  | text (text : String)
  | bytes (bytes : Encoding.Bytes)
deriving DecidableEq, Repr

def Content.isBinary : Content → Bool
  | text _ => false
  | bytes _ => true

/-- The content after it has been read to the end. -/
def Content.emptied : Content → Content
  | text _ => text ""
  | bytes _ => bytes []

/-- The content without its first `n` characters or bytes. -/
def Content.skip (n : Nat) : Content → Content
  | text s => text (String.ofList (s.toList.drop n))
  | bytes b => bytes (b.drop n)

inductive Stream
  | holding (rest : Content)
  | closed (binary : Bool)
  | broken (raised : Raised)

namespace Stream

def nothing : Stream := holding (.bytes [])

def closedFault (binary : Bool) : Fault :=
  Fault.valueFault
    (if binary then "I/O operation on closed file." else "I/O operation on closed file")

/-- Reads to the end: what was unread, and the stream afterwards. -/
def drain : Stream → Outcome Content × Stream
  | holding rest => (.succeed rest, holding rest.emptied)
  | closed binary => (.fail (closedFault binary), closed binary)
  | broken raised => (raised.outcome, broken raised)

end Stream

end FactIntake
