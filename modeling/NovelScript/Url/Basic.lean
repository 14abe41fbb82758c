import NovelScript.Text.Space
import NovelScript.Url.Percent

/-!
# Addresses

An address of a resource: a scheme, a user, a host, a path, a query and a fragment, most of which
may be missing. `Url.ofText?` reads one and `Url.redacted` writes it again without the password.
-/

namespace NovelScript

/-- Who asks: a name, and a password if there is one. -/
structure Url.User where
  /-- The name. -/
  name : Text
  /-- The password. -/
  password : Option Text
deriving DecidableEq

/-- An address. -/
structure Url where
  /-- The scheme in lower case; empty when there is none. -/
  scheme : Text := []
  /-- What follows the scheme when that is no path. -/
  rootless : Text := []
  /-- Who asks. -/
  user : Option Url.User := none
  /-- The host with its service number. -/
  host : Text := []
  /-- Is there a scheme but no place for a host? -/
  hostless : Bool := false
  /-- The path as it was given. -/
  rawPath : Text := []
  /-- The path. -/
  path : Text := []
  /-- The query, if there is a question mark. -/
  query : Option Text := none
  /-- The fragment as it was given. -/
  rawFragment : Text := []
  /-- The fragment. -/
  fragment : Text := []
deriving DecidableEq

namespace Url

/-! ## Reading -/

/-- The text before and from the first byte on that is `sep`. -/
def splitBefore (sep : UInt8) (s : Text) : Text × Text :=
  (s.takeWhile (· != sep), s.dropWhile (· != sep))

/-- The parts before and after the last byte that is `sep`. -/
def cutLast? (sep : UInt8) (s : Text) : Option (Text × Text) :=
  if s.contains sep then
    let after := (s.reverse.takeWhile (· != sep)).reverse
    some (s.take (s.length - after.length - 1), after)
  else none

/-- A byte that may stand in a scheme after its first letter. -/
def isSchemeByte (b : UInt8) : Bool :=
  Text.isAlphanumeric b || isOneOf "+-." b

/-- The scheme and what follows its colon. A colon in front of everything is refused. -/
def takeScheme? (s : Text) : Option (Text × Text) :=
  let (name, rest) := (s.takeWhile isSchemeByte, s.dropWhile isSchemeByte)
  match name, rest with
  | [], 0x3A :: _ => none
  | first :: _, 0x3A :: r => if Text.isLetter first then some (name, r) else some ([], s)
  | _, _ => some ([], s)

/-- Nothing, or a colon and digits. -/
def isService (s : Text) : Bool :=
  match s with
  | [] => true
  | b :: r => b == 0x3A && r.all Text.isDigit

/-- A host with its service number. A numeric host in brackets may end in a zone. -/
def hostOf? (s : Text) : Option Text :=
  if s.head? == some 0x5B then
    match cutLast? 0x5D s with
    | none => none
    | some (inside, service) =>
      if !isService service then none
      else
        match Text.cut (Text.lit "%25") inside with
        | none => decode? .host s
        | some (number, zone) => do
          let number ← decode? .host number
          let zone ← decode? .zone (Text.lit "%25" ++ zone)
          return number ++ zone ++ 0x5D :: service
  else
    match cutLast? 0x3A s with
    | some (_, service) => if isService (0x3A :: service) then decode? .host s else none
    | none => decode? .host s

/-- A byte that may stand in front of an at sign. -/
def isUserByte (b : UInt8) : Bool :=
  Text.isAlphanumeric b || isOneOf "-._:~!$&'()*+,;=%@" b

/-- A name, and a password after the first colon. -/
def userOf? (s : Text) : Option User :=
  if !s.all isUserByte then none
  else
    match Text.cut [0x3A] s with
    | none => (decode? .user s).map fun name => ⟨name, none⟩
    | some (name, password) => do
      let name ← decode? .user name
      let password ← decode? .user password
      return ⟨name, some password⟩

/-- The user and the host of what stands between two slashes and the path. -/
def authorityOf? (s : Text) : Option (Option User × Text) :=
  match cutLast? 0x40 s with
  | none => (hostOf? s).map fun host => (none, host)
  | some (user, host) => do
    let host ← hostOf? host
    let user ← userOf? user
    return (some user, host)

/-- The address with its path read from `s`. -/
def withPath? (u : Url) (s : Text) : Option Url :=
  (decode? .path s).map fun path => { u with rawPath := s, path }

/-- The host, the path and what else stands between the scheme and the query. -/
def withHierarchy? (u : Url) (s : Text) : Option Url :=
  let hasScheme := !u.scheme.isEmpty
  if s.head? != some 0x2F && hasScheme then some { u with rootless := s }
  else if s.head? != some 0x2F && (splitBefore 0x2F s).1.contains 0x3A then none
  else if Text.startsWith (Text.lit "//") s &&
      (hasScheme || !Text.startsWith (Text.lit "///") s) then do
    let (authority, rest) := splitBefore 0x2F (s.drop 2)
    let (user, host) ← authorityOf? authority
    { u with user, host }.withPath? rest
  else { u with hostless := hasScheme }.withPath? s

/-- The address without its fragment. -/
def ofMain? (s : Text) : Option Url := do
  if s.any fun b => b < 0x20 || b == 0x7F then none
  else if s == Text.lit "*" then return { path := s, rawPath := s }
  else
    let (scheme, rest) ← takeScheme? s
    let (rest, tail) := splitBefore 0x3F rest
    let query := if tail.isEmpty then none else some (tail.drop 1)
    withHierarchy? { scheme := scheme.map Text.lowerByte, query } rest

/-- The address that is written; `none` when it is none. -/
def ofText? (s : Text) : Option Url := do
  let (main, tail) := splitBefore Text.hash s
  let u ← ofMain? main
  let fragment ← decode? .fragment (tail.drop 1)
  return { u with rawFragment := tail.drop 1, fragment }

/-! ## Writing -/

/-- A name with its password. -/
def User.toText (u : User) : Text :=
  encode .user u.name ++
    match u.password with
    | some p => 0x3A :: encode .user p
    | none => []

/-- The path as it is written. A star alone is never coded. -/
def pathText (u : Url) : Text :=
  if u.path == Text.lit "*" && u.rawPath == encode .path u.path then u.path
  else spelled .path u.rawPath u.path

/-- The user and the host behind two slashes, as far as there is something to write. -/
def authorityText (u : Url) : Text :=
  if u.scheme.isEmpty && u.host.isEmpty && u.user.isNone then []
  else if u.hostless && u.host.isEmpty && u.user.isNone then []
  else
    (if u.host.isEmpty && u.path.isEmpty && u.user.isNone then [] else Text.lit "//") ++
      (match u.user with
      | some user => user.toText ++ [0x40]
      | none => []) ++
      encode .host u.host

/-- What stands between the scheme and the query. -/
def hierarchyText (u : Url) : Text :=
  if !u.rootless.isEmpty then u.rootless
  else
    let path := u.pathText
    let front := u.authorityText
    front ++
      (if !path.isEmpty && path.head? != some 0x2F && !u.host.isEmpty then Text.lit "/" else []) ++
      (if u.scheme.isEmpty && front.isEmpty && (splitBefore 0x2F path).1.contains 0x3A then
        Text.lit "./" else []) ++
      path

/-- The address as it is written. -/
def toText (u : Url) : Text :=
  (if u.scheme.isEmpty then [] else u.scheme ++ [0x3A]) ++ u.hierarchyText ++
    (match u.query with
    | some q => 0x3F :: q
    | none => []) ++
    if u.fragment.isEmpty then []
    else Text.hash :: spelled .fragment u.rawFragment u.fragment

/-- What stands in place of every password. -/
def hiddenPassword : Text := Text.lit "xxxxx"

/-- The address with its password hidden. -/
def redact (u : Url) : Url :=
  let hide (user : User) : User := { user with password := user.password.map fun _ => hiddenPassword }
  { u with user := u.user.map hide }

end Url

end NovelScript
