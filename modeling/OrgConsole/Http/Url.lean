import OrgConsole.Http.Host
import OrgConsole.Http.PercentEncoding
/-!
# URLs

A URL has its path as a list of encoded segments, so a segment that is added stays one segment
whatever characters it has. A path of one empty segment is the root.
-/

namespace OrgConsole

/-- A URL under which other URLs can lie. -/
structure Url where
  scheme : String
  /-- Name and password before the host, encoded. -/
  userInfo : Option (String × Option String)
  host : Option Host
  /-- Absent if it is the scheme's own. -/
  portNumber : Option Nat
  path : List String
  query : Option String
  fragment : Option String
deriving DecidableEq, Repr

namespace Url

/-- The schemes that always have a host and a path. -/
def isSpecialScheme (scheme : String) : Bool :=
  ["http", "https", "ws", "wss", "ftp", "file"].contains scheme

def isSpecial (u : Url) : Bool :=
  isSpecialScheme u.scheme

/-- The number that a scheme's servers listen on when none is given. -/
def defaultPortNumber? : String → Option Nat
  | "http" | "ws" => some 80
  | "https" | "wss" => some 443
  | "ftp" => some 21
  | _ => none

/-! ## Paths -/

/-- A path with its slashes. -/
def pathText (path : List String) : List Char :=
  path.flatMap fun s => '/' :: s.toList

/-- A path without an empty last segment, unless that is all it has. -/
def dropEmptyLast (path : List String) : List String :=
  if 1 < path.length && path.getLast? = some "" then path.dropLast else path

/-- A path with a segment after it; after the root the segment is the only one. -/
def addSegment (path : List String) (segment : String) : List String :=
  if path = [""] then [segment] else path ++ [segment]

/-- The tab and the line breaks, which no URL has. -/
def isDropped (c : Char) : Bool :=
  c = '\t' || c = '\n' || c = '\r'

/-- A text as a segment. -/
def encodeSegment (special : Bool) (segment : String) : String :=
  String.ofList (PercentEncoding.encode (PercentEncoding.inSegment special) (segment.toList.filter (!isDropped ·)))

/-- A path with a text as one more segment. A text of one or two points is left out; one that comes
to such by what is dropped from it stands for this place or the one above. -/
def push (special : Bool) (path : List String) (segment : String) : List String :=
  if segment = "." || segment = ".." then path
  else
    let encoded := encodeSegment special segment
    if encoded = "." then addSegment path ""
    else if encoded = ".." then addSegment path.dropLast ""
    else addSegment path encoded

/-- The URL with segments after its path, a trailing empty segment dropped. -/
def join (u : Url) (segments : List String) : Url :=
  { u with path := segments.foldl (push u.isSpecial) (dropEmptyLast u.path) }

/-! ## Text -/

/-- What a request asks for: path and query. -/
def target (u : Url) : String :=
  String.ofList (pathText u.path ++ u.query.elim [] fun q => '?' :: q.toList)

/-- The path of a URL. -/
def pathString (u : Url) : String :=
  String.ofList (pathText u.path)

/-- A URL without the name and the password. -/
def textWithoutUser (u : Url) : String :=
  String.ofList (u.scheme.toList ++ ':' ::
    u.host.elim [] (fun h => '/' :: '/' :: h.text ++ u.portNumber.elim [] fun p => ':' :: Nat.toDigits 10 p) ++
    pathText u.path ++ u.query.elim [] (fun q => '?' :: q.toList) ++ u.fragment.elim [] fun f => '#' :: f.toList)

/-! ## Sending -/

/-- Whether a request can be made to the URL: it is of the web, and its host has none of the
characters that a request line cannot hold. -/
def isSendable (u : Url) : Bool :=
  (u.scheme = "http" || u.scheme = "https") &&
    u.host.any fun h => !h.text.any ['"', '\x60', '\x7b', '\x7d'].contains

end Url

end OrgConsole
