/-
# Courier.Url -- absolute URLs

A URL is a scheme and, behind a colon, what the scheme makes of it.  Read here is
what tells a server and what to say to it: the user with a password, the host, the
port and the query.  The path and the fragment are passed over.

Schemes fall into three kinds.  Those of the web have a host whatever is written,
and take a backslash for a slash.  Files may have a host, never a port.  All others
have a host only behind two slashes.
-/
import Courier.Text.Scan
import Courier.Url.Parts

namespace Courier

set_option autoImplicit false

/-- What a URL says of a server. -/
structure Url where
  user : List Char
  password : List Char
  /-- The host; `none` when it is left out. -/
  host : Option Url.Host
  /-- The port; `none` when it is left out. -/
  port : Option Nat
  query : List Char
  deriving DecidableEq

namespace Url

/-- Why a text is no URL. -/
inductive ReadError where
  /-- It has no scheme. -/
  | relative
  | host (error : Host.ReadError)
  | invalidPort
  deriving DecidableEq

def ReadError.message : ReadError → String
  | .relative => "relative URL without a base"
  | .host .empty => "empty host"
  | .host .invalidName => "invalid international domain name"
  | .host .invalidV4 => "invalid IPv4 address"
  | .host .invalidV6 => "invalid IPv6 address"
  | .host .invalidCharacter => "invalid domain character"
  | .invalidPort => "invalid port number"

/-- Kinds of schemes. -/
inductive Kind where
  | web
  | file
  | other
  deriving DecidableEq

def Kind.ofScheme (scheme : String) : Kind :=
  if ["http", "https", "ws", "wss", "ftp"].contains scheme then .web
  else if scheme = "file" then .file
  else .other

/-- A text without the control characters and blanks around it and the line breaks
and tabs in it. -/
def clean (text : List Char) : List Char :=
  let isEdge (c : Char) : Bool := c.toNat ≤ 0x20
  let text := ((text.dropWhile isEdge).reverse.dropWhile isEdge).reverse
  text.filter fun c => !(c == '\t' || c == '\n' || c == '\r')

/-- The kind of the scheme, and what follows its colon. -/
def scheme? (text : List Char) : Option (Kind × List Char) :=
  match text.span fun c => c.isAlphanum || ['+', '-', '.'].contains c with
  | (c :: more, ':' :: rest) =>
      if c.isAlpha then
        some (.ofScheme (String.ofList ((c :: more).map Char.toLower)), rest)
      else none
  | _ => none

def isSlash (c : Char) : Bool := c == '/' || c == '\\'

/-- What ends the part of a URL that tells the server. -/
def endMarks (kind : Kind) : List Char :=
  if kind = .other then ['/', '?', '#'] else ['/', '\\', '?', '#']

/-- The query in what follows the server. -/
def queryOf (text : List Char) : List Char :=
  match (Text.upTo ['?', '#'] text).2 with
  | '?' :: rest => (Text.upTo ['#'] rest).1
  | _ => []

/-! ## User and password -/

/-- User and password. -/
def credentials (text : List Char) : List Char × List Char :=
  let (user, password) := Text.upTo [':'] text
  (user, password.drop 1)

/-- What stands before the last `@` of a server, if it has one, and the rest. -/
def userInfo (kind : Kind) (text : List Char) : Except ReadError (List Char × List Char) :=
  let (server, rest) := Text.upTo (endMarks kind) text
  let host := (server.reverse.takeWhile (· != '@')).reverse
  if host.length = server.length then .ok ([], text)
  else
    let info := server.take (server.length - host.length - 1)
    if info.isEmpty && host.isEmpty && !rest.isEmpty then .error (.host .empty)
    else .ok (info, host ++ rest)

/-! ## Host and port -/

/-- What there is of a host: up to a colon outside brackets. -/
def hostText (kind : Kind) (bracketed : Bool) (text : List Char) : List Char × List Char :=
  match text with
  | [] => ([], [])
  | c :: rest =>
      if (endMarks kind).contains c || (c == ':' && !bracketed) then ([], c :: rest)
      else
        let bracketed := c == '[' || (bracketed && c != ']')
        let (host, rest) := hostText kind bracketed rest
        (c :: host, rest)

/-- Reads the host of a web URL or of one with another scheme. -/
def hostOf (kind : Kind) (text : List Char) : Except ReadError Host :=
  if kind = .other then (Host.ofOpaque text).mapError .host
  else if text.isEmpty then .error (.host .empty)
  else (Host.ofText text).mapError .host

/-- The port at the front of a text, and the rest. -/
def portOf (text : List Char) : Except ReadError (Option Nat × List Char) :=
  match text with
  | ':' :: rest =>
      let (digits, rest) := Text.upTo ['/', '\\', '?', '#'] rest
      if digits.isEmpty then .ok (none, rest)
      else
        match Text.Integer.readDigits 65535 0 digits with
        | .ok port => .ok (some port, rest)
        | .error _ => .error .invalidPort
  | rest => .ok (none, rest)

/-- Reads everything behind the slashes of a URL that is not a file's. -/
def ofServer (kind : Kind) (text : List Char) : Except ReadError Url := do
  let (info, text) ← userInfo kind text
  let (host, text) := hostText kind false text
  let read ← hostOf kind host
  if host.isEmpty && text.head? == some ':' then .error (.host .empty)
  else do
    let (port, text) ← portOf text
    let (user, password) := credentials info
    if host.isEmpty && !(user.isEmpty && password.isEmpty) then .error (.host .empty)
    else .ok ⟨user, password, if host.isEmpty then none else some read, port, queryOf text⟩

/-- A URL that tells no server. -/
def serverless (query : List Char) : Url := ⟨[], [], none, none, query⟩

/-- Whether a text is the name of a drive, which is no host. -/
def isDrive : List Char → Bool
  | [c, mark] => c.isAlpha && (mark == ':' || mark == '|')
  | _ => false

/-- Reads everything behind the scheme of a file's URL. -/
def ofFile (text : List Char) : Except ReadError Url :=
  match text with
  | first :: second :: rest =>
      if isSlash first && isSlash second then
        let (host, path) := Text.upTo (endMarks .file) rest
        if host.isEmpty || isDrive host then .ok (Url.serverless (queryOf rest))
        else
          match Host.ofText host with
          | .error e => .error (.host e)
          | .ok read =>
              let isHere := read = .name "localhost".toList
              .ok ⟨[], [], if isHere then none else some read, none, queryOf path⟩
      else .ok (Url.serverless (queryOf text))
  | text => .ok (Url.serverless (queryOf text))

/-- Reads a URL. -/
def read (text : String) : Except ReadError Url :=
  match scheme? (clean text.toList) with
  | none => .error .relative
  | some (.web, rest) => ofServer .web (rest.dropWhile isSlash)
  | some (.file, rest) => ofFile rest
  | some (.other, '/' :: '/' :: rest) => ofServer .other rest
  | some (.other, rest) => .ok (Url.serverless (queryOf rest))

end Url

end Courier
