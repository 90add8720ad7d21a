import SyntaxServer.Text.Decimal
import SyntaxServer.Uri.Basic
import SyntaxServer.Uri.Host

/-! # Reading URIs

Reading brings a URI into its normal form: the scheme and the host of a network place in lower case, dot
segments resolved, the usual port left out, and what may not stand in a part escaped there.
-/
namespace SyntaxServer.Uri

/-- Schemes differ in what follows their colon. -/
inductive SchemeKind where
  | file
  | network
  | plain
deriving DecidableEq, Repr

def SchemeKind.ofScheme (scheme : Text) : SchemeKind :=
  if scheme = "file".toList then .file
  else if ["http", "https", "ws", "wss", "ftp"].any (·.toList = scheme) then .network
  else .plain

def defaultPort? (scheme : Text) : Option Nat :=
  if scheme = "http".toList ∨ scheme = "ws".toList then some 80
  else if scheme = "https".toList ∨ scheme = "wss".toList then some 443
  else if scheme = "ftp".toList then some 21
  else none

variable (kind : SchemeKind)

/-- A backslash separates segments like a slash where files or network places are named. -/
def isSeparator (c : Char) : Bool := c = '/' || (c = '\\' && kind != .plain)

def startsTail (c : Char) : Bool := c = '?' || c = '#'

/-- A character that does not count wherever it stands. -/
def isBreak (c : Char) : Bool := c = '\t' || c = '\n' || c = '\r'

def withoutBreaks (t : Text) : Text := t.filter (!isBreak ·)

/-- A URI without the blanks and controls around it. -/
def trimmed (t : Text) : Text := ((t.dropWhile (· ≤ ' ')).reverse.dropWhile (· ≤ ' ')).reverse

def isSchemeChar (c : Char) : Bool := c.isAlphanum || c = '+' || c = '-' || c = '.'

/-- The scheme in lower case, and what follows its colon. -/
def scheme? (t : Text) : Option (Text × Text) :=
  match t with
  | [] => none
  | c :: _ =>
    if c.isAlpha then
      match t.dropWhile isSchemeChar with
      | ':' :: rest => some ((t.takeWhile isSchemeChar).map Char.toLower, rest)
      | _ => none
    else none

/-- A letter with a colon or a bar names a drive. -/
def isDrive : Text → Bool
  | [letter, mark] => letter.isAlpha && (mark = ':' || mark = '|')
  | _ => false

/-- A drive, with nothing behind it or with a backslash. -/
def startsWithDrive (segment : Text) : Bool :=
  isDrive (segment.take 2) && ((segment.drop 2).isEmpty || segment[2]? == some '\\')

/-- A dot of a segment, which may be escaped, and what follows. -/
def dot? : Text → Option Text
  | '.' :: t => some t
  | '%' :: '2' :: 'e' :: t => some t
  | '%' :: '2' :: 'E' :: t => some t
  | _ => none

def isDot (segment : Text) : Bool := dot? segment = some []

def isDoubleDot (segment : Text) : Bool := (dot? segment >>= dot?) = some []

/-- The segments one level up; a drive is not left. -/
def parent (names : List Text) : List Text :=
  match names.getLast? with
  | some name => if startsWithDrive name then names else names.dropLast
  | none => []

/-- A path as far as it has been read: its names, and whether the drive of a file is the first of
them. -/
structure Trail where
  names : List Text := []
  onDrive : Bool := false
deriving DecidableEq, Repr

/-- A drive that a tab or a line end sets apart from the rest of its segment, and that rest. -/
def splitDrive? (segment : Text) : Option (Text × Text) :=
  match segment.dropWhile isBreak with
  | [] => none
  | letter :: t =>
    match t.dropWhile isBreak with
    | ':' :: c :: rest =>
      if letter.isAlpha && isBreak c && !rest.all isBreak then
        some ([letter, ':'], withoutBreaks rest)
      else none
    | _ => none

namespace Trail

/-- The path with one more segment. The first name of a file path may be a drive, which is written with a
colon. -/
def enter (trail : Trail) (segment : Text) : Trail :=
  let first := kind = .file && trail.names.isEmpty
  match if first then splitDrive? segment else none with
  | some (drive, rest) => { trail with names := [drive, escape pathSet rest] }
  | none =>
    let name := escape pathSet (withoutBreaks segment)
    if isDoubleDot name then { trail with names := parent trail.names }
    else if isDot name then trail
    else if first && isDrive name then ⟨[name.take 1 ++ [':']], true⟩
    else { trail with names := trail.names ++ [name] }

/-- The path with its last segment; one that only leads elsewhere leaves an empty name. -/
def finish (trail : Trail) (segment : Text) : Trail :=
  let next := trail.enter kind segment
  let name := withoutBreaks segment
  if isDoubleDot name || isDot name then { next with names := next.names ++ [[]] } else next

/-- The path that takes the given segments. -/
def follow (trail : Trail) : List Text → Trail
  | [] => trail
  | [last] => trail.finish kind last
  | segment :: rest => (trail.enter kind segment).follow rest

end Trail

/-- The path that takes the segments of a text, all of them. -/
def trailOf (path : Text) : Trail := Trail.follow kind {} (splitOn (isSeparator kind) path)

/-- The path that takes the segments of a text from its first separator on. -/
def resolved (path : Text) : Trail :=
  match path with
  | c :: t => if isSeparator kind c then trailOf kind t else trailOf kind path
  | [] => trailOf kind []

/-- The path of a file has no empty segments before its first name. -/
def withoutEmptyStart (names : List Text) : List Text :=
  match names.dropWhile List.isEmpty with
  | [] => [[]]
  | names => names

/-- Query and fragment, from the character that starts them. -/
def tail (t : Text) : Option Text × Option Text :=
  let fragment (t : Text) : Option Text := match t with
    | '#' :: f => some (escape fragmentSet f)
    | _ => none
  match t with
  | '?' :: rest =>
    let set := if kind = .plain then querySet else specialQuerySet
    (some (escape set (rest.takeWhile (· ≠ '#'))), fragment (rest.dropWhile (· ≠ '#')))
  | t => (none, fragment t)

/-- The URI whose query and fragment are read from `t`. -/
def withTail (u : Uri) (t : Text) : Uri :=
  let (query, fragment) := tail kind t
  { u with query, fragment }

/-- The part of a text before query and fragment. -/
def beforeTail (t : Text) : Text := t.takeWhile (!startsTail ·)

/-- The part of a text from query or fragment on. -/
def fromTail (t : Text) : Text := t.dropWhile (!startsTail ·)

/-- The URI whose path is read from `t`, which stands behind scheme and authority. Only where no
network place is named may there be no segments at all. -/
def withPath (scheme : Text) (authority : Option Authority) (t : Text) : Uri :=
  let path := beforeTail t
  let names := if kind = .plain ∧ path.isEmpty then [] else (resolved kind path).names
  withTail kind ⟨scheme, authority, .segments names, none, none⟩ (fromTail t)

/-- The texts before and behind the last `@`. -/
def splitAtSign (t : Text) : Option (Text × Text) :=
  let back := t.reverse.takeWhile (· ≠ '@')
  match t.reverse.dropWhile (· ≠ '@') with
  | [] => none
  | _ :: front => some (front.reverse, back.reverse)

/-- User and password, escaped. A colon with nothing behind it is left out. -/
def userInfo (t : Text) : Text :=
  let user := escape userInfoSet (t.takeWhile (· ≠ ':'))
  match t.dropWhile (· ≠ ':') with
  | _ :: c :: password => user ++ ':' :: escape userInfoSet (c :: password)
  | _ => user

/-- The host up to a colon outside brackets, and what follows it. -/
def hostSpan (inBrackets : Bool) : Text → Text × Text
  | [] => ([], [])
  | c :: t =>
    if (c = ':' && !inBrackets) || isSeparator kind c || startsTail c then ([], c :: t)
    else
      let (host, rest) := hostSpan (if c = '[' then true else if c = ']' then false else inBrackets) t
      (c :: host, rest)

/-- An optional port, and what follows it. The usual port of the scheme counts as none. -/
def port? (scheme : Text) : Text → Option (Option Nat × Text)
  | ':' :: t =>
    let digits := t.takeWhile Decimal.isDigit
    let rest := t.dropWhile Decimal.isDigit
    let port := Decimal.value digits
    let ended := match rest with
      | [] => true
      | c :: _ => c = '/' || c = '\\' || startsTail c
    if 65535 < port ∨ !ended then none
    else if digits.isEmpty ∨ defaultPort? scheme = some port then some (none, rest)
    else some (some port, rest)
  | t => some (none, t)

/-- The URI of a scheme with an authority, read from behind the two slashes. -/
def withAuthority? (scheme t : Text) : Option Uri := do
  let before := t.takeWhile fun c => !(isSeparator kind c || startsTail c)
  let (user, t) ← match splitAtSign before with
    | none => some ([], t)
    | some (front, back) =>
      let rest := back ++ t.drop before.length
      if front.isEmpty ∧ back.isEmpty ∧ !rest.isEmpty then none else some (userInfo front, rest)
  let (written, t) := hostSpan kind false t
  let host ← if kind = .plain then plainHost? written else domainHost? written
  if host.isEmpty ∧ (t.head? = some ':' ∨ !user.isEmpty) then none
  else
    let (port, t) ← port? scheme t
    return withPath kind scheme (some ⟨user, host, port⟩) t

/-- The URI of a file at a host with a given path, followed by query and fragment. -/
def fileAt (host : Text) (trail : Trail) (t : Text) : Uri :=
  let path := UriPath.segments (withoutEmptyStart trail.names)
  withTail .file ⟨"file".toList, some { host }, path, none, none⟩ (withoutBreaks t)

/-- The URI of a file with a host, read from behind the two slashes. The host is left out when it is
this machine, or when the path starts with a drive. A path on this machine is read from its slash on, which
leaves an empty name before a drive. -/
def fileWithHost? (t : Text) : Option Uri :=
  let ends (c : Char) : Bool := isSeparator .file c || startsTail c
  let written := withoutBreaks (t.takeWhile (!ends ·))
  if isDrive written then some (fileAt [] (trailOf .file (beforeTail t)) (fromTail t))
  else do
    let host ← if written.isEmpty then some [] else domainHost? written
    let rest := t.dropWhile (!ends ·)
    let path := beforeTail rest
    if host.isEmpty ∨ host = "localhost".toList then
      return fileAt [] (trailOf .file path) (fromTail rest)
    else
      let trail := resolved .file path
      return fileAt (if trail.onDrive then [] else host) trail (fromTail rest)

/-- What follows the breaks and a separator at the beginning of a text, if it starts in that way. -/
def afterSeparator? (t : Text) : Option Text :=
  match t.dropWhile isBreak with
  | c :: t => if isSeparator .file c then some t else none
  | [] => none

/-- The URI of a file, read from behind the colon. Breaks are still in the text, because one behind a drive
ends its name. -/
def file? (t : Text) : Option Uri :=
  match afterSeparator? t with
  | none => some (fileAt [] (trailOf .file (beforeTail t)) (fromTail t))
  | some path =>
    match afterSeparator? path with
    | none => some (fileAt [] (trailOf .file (beforeTail path)) (fromTail path))
    | some rest => fileWithHost? rest

/-- The normal form of a URI, if the text is one. -/
def parse? (s : Text) : Option Uri := do
  let written := trimmed s
  let (scheme, t) ← scheme? (withoutBreaks written)
  match SchemeKind.ofScheme scheme with
  | .file => file? ((written.dropWhile (· ≠ ':')).drop 1)
  | .network => withAuthority? .network scheme (t.dropWhile (isSeparator .network))
  | .plain =>
    match t with
    | '/' :: '/' :: t => withAuthority? .plain scheme t
    | '/' :: t => some (withPath .plain scheme none ('/' :: t))
    | t =>
      let path := escape [] (beforeTail t)
      some (withTail .plain ⟨scheme, none, .opaqueText path, none, none⟩ (fromTail t))

def ofString? (s : String) : Option Uri := parse? s.toList

end SyntaxServer.Uri
