import OrgConsole.Http.Url
/-!
# Reading URLs

`Url.read?` reads an absolute URL under which other URLs can lie. Blanks and control characters
around it and tabs and line breaks within it do not count. Of a special scheme a backslash is as good
as a slash, and any number of slashes may stand before the host.
-/

namespace OrgConsole.Url

/-- A text without what does not count in a URL. -/
def cleaned (text : String) : List Char :=
  let isOuter (c : Char) : Bool := c.toNat ≤ 0x20
  ((text.toList.dropWhile isOuter).reverse.dropWhile isOuter).reverse.filter (!isDropped ·)

/-- A character that separates segments. -/
def isSlash (special : Bool) (c : Char) : Bool :=
  c = '/' || (special && c = '\\')

/-- The scheme of a URL, in lower case, and what follows the colon. -/
def readScheme? (cs : List Char) : Option (String × List Char) :=
  let inScheme (c : Char) : Bool := c.isAlphanum || c = '+' || c = '-' || c = '.'
  match cs.takeWhile inScheme, cs.dropWhile inScheme with
  | c :: name, ':' :: rest => if c.isAlpha then some ((String.ofList (c :: name)).toLower, rest) else none
  | _, _ => none

/-! ## Before the path -/

/-- What stands before the path, and the rest. -/
def splitAuthority (special : Bool) (cs : List Char) : List Char × List Char :=
  cs.span fun c => !(isSlash special c || c = '?' || c = '#')

/-- A text cut at the last at sign, if it has one. -/
def splitUser (cs : List Char) : Option (List Char) × List Char :=
  match cs.reverse.span (· ≠ '@') with
  | (host, _ :: user) => (some user.reverse, host.reverse)
  | (host, []) => (none, host.reverse)

/-- Name and password; an empty password is none. -/
def readUser (cs : List Char) : Option (String × Option String) :=
  let encode (cs : List Char) : String :=
    String.ofList (PercentEncoding.encode PercentEncoding.inUserInfo cs)
  match cs.span (· ≠ ':') with
  | ([], []) | ([], [_]) => none
  | (name, _ :: c :: password) => some (encode name, some (encode (c :: password)))
  | (name, _) => some (encode name, none)

/-- A host, and what follows the first colon that is not in brackets. -/
def splitHost (bracketed : Bool) : List Char → List Char × Option (List Char)
  | [] => ([], none)
  | c :: rest =>
    if c = ':' && !bracketed then ([], some rest)
    else
      let (host, number) := splitHost (if c = '[' then true else if c = ']' then false else bracketed) rest
      (c :: host, number)

/-- The number after a host: `some none` for the scheme's own. -/
def readPortNumber? (scheme : String) (cs : List Char) : Option (Option Nat) :=
  if !cs.all Char.isDigit then none
  else
    let n := cs.foldl (fun n c => n * 10 + (c.toNat - '0'.toNat)) 0
    if 0xffff < n then none
    else some (if cs.isEmpty || defaultPortNumber? scheme = some n then none else some n)

/-! ## The path and what follows -/

/-- A segment that stands for the place itself. -/
def isHere (s : List Char) : Bool :=
  ["." , "%2e"].contains (String.ofList s).toLower

/-- A segment that stands for the place above. -/
def isAbove (s : List Char) : Bool :=
  ["..", ".%2e", "%2e.", "%2e%2e"].contains (String.ofList s).toLower

/-- A path with the segments of a text after it; the text begins after a slash. -/
def readSegments (special : Bool) (path : List String) : (fuel : Nat) → List Char → List String
  | 0, _ => path
  | fuel + 1, cs =>
    let (segment, rest) := cs.span fun c => !isSlash special c
    let encoded := PercentEncoding.encode PercentEncoding.inPath segment
    match rest with
    | [] =>
      if isAbove encoded then path.dropLast ++ [""]
      else if isHere encoded then path ++ [""]
      else path ++ [String.ofList encoded]
    | _ :: rest =>
      if isAbove encoded then readSegments special path.dropLast fuel rest
      else if isHere encoded then readSegments special path fuel rest
      else readSegments special (path ++ [String.ofList encoded]) fuel rest

/-- The path of a text. -/
def readPath (special : Bool) (cs : List Char) : List String :=
  match cs with
  | [] => if special then [""] else []
  | c :: rest => readSegments special [] (cs.length + 1) (if isSlash special c then rest else cs)

/-- The path, the query and the fragment of a text. -/
def readTail (special : Bool) (cs : List Char) : List String × Option String × Option String :=
  let (front, fragment) := cs.span (· ≠ '#')
  let (path, query) := front.span (· ≠ '?')
  (readPath special path,
    query.tail?.map fun q => String.ofList (PercentEncoding.encode (PercentEncoding.inQuery special) q),
    fragment.tail?.map fun f => String.ofList (PercentEncoding.encode PercentEncoding.inFragment f))

/-! ## Whole URLs -/

/-- A URL from the text after the slashes that follow the scheme. -/
def readAuthority? (scheme : String) (cs : List Char) : Option Url := do
  let special := isSpecialScheme scheme
  let (authority, rest) := splitAuthority special cs
  let (user, location) := splitUser authority
  let (hostText, numberText) := splitHost false location
  let userInfo := user.bind readUser
  if hostText.isEmpty && (special || userInfo.isSome || user = some [] || numberText.isSome) then none
  let host ← if special then Host.read? hostText else Host.readOpaque? hostText
  let portNumber ← match numberText with
    | some digits => readPortNumber? scheme digits
    | none => some none
  let (path, query, fragment) := readTail special rest
  return ⟨scheme, userInfo, some host, portNumber, path, query, fragment⟩

/-- A URL of the scheme `file`, whose host may be empty. -/
def readFile? (cs : List Char) : Option Url := do
  let isSlash := isSlash true
  match cs with
  | a :: b :: rest =>
    if isSlash a && isSlash b then
      let (hostText, rest) := splitAuthority true rest
      let host ← if hostText.isEmpty then some (.domain "") else Host.read? hostText
      let (path, query, fragment) := readTail true rest
      return ⟨"file", none, some (if host = .domain "localhost" then .domain "" else host), none, path, query, fragment⟩
  | _ => pure ()
  let (path, query, fragment) := readTail true cs
  return ⟨"file", none, some (.domain ""), none, path, query, fragment⟩

/-- An absolute URL under which others can lie. -/
def read? (text : String) : Option Url := do
  let (scheme, rest) ← readScheme? (cleaned text)
  if scheme = "file" then readFile? rest
  else if isSpecialScheme scheme then readAuthority? scheme (rest.dropWhile (isSlash true))
  else match rest with
    | '/' :: '/' :: rest => readAuthority? scheme rest
    | '/' :: rest =>
      let (path, query, fragment) := readTail false ('/' :: rest)
      return ⟨scheme, none, none, none, path, query, fragment⟩
    | _ => none

end OrgConsole.Url
