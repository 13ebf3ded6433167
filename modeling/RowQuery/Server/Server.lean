import RowQuery.Error
import RowQuery.Server.Url

/-!
Servers: all that is needed to open a connection, read from a URL or written as one. Two servers
with the same host, port, user, password and database are the same place.
-/

namespace RowQuery

structure Server where
  user : String
  database : String
  password : String := ""
  host : String := "127.0.0.1"
  port : Int := 3306
  charset : String := "utf8mb4"
  autocommit : Bool := true
  deriving DecidableEq, Repr

namespace Server

/-- What tells servers apart. -/
structure Identity where
  host : String
  port : Int
  user : String
  password : String
  database : String
  deriving DecidableEq, Repr

def identity (s : Server) : Identity := ⟨s.host, s.port, s.user, s.password, s.database⟩

/-- The schemes of URLs that name a server. -/
def schemes : List String := ["mysql", "mysql+mysqlconnector"]

/-- Characters decoded, and the default in place of an empty text. -/
def decoded (cs : List Char) : String := Text.percentDecode (String.ofList cs)

/-- The server that a URL names. -/
def ofUrl (url : Value) : Except Error Server :=
  match url with
  | .text s =>
    if s.isEmpty then refuse .noUrl
    else match Url.ofString? s with
      | none => failWith .value
      | some u =>
        let scheme := String.ofList u.scheme
        let name := Text.stripChars (· == '/') u.path
        if !schemes.contains scheme then refuse (.urlScheme scheme)
        else if name.isEmpty || name.contains '/' then refuse (.urlDatabase s)
        else match u.port? with
          | none => failWith .value
          | some port => .ok {
              user := decoded u.credentials.1
              database := decoded name
              password := decoded u.credentials.2
              host := if u.host.isEmpty then "127.0.0.1" else String.ofList u.host
              port := if port = 0 then 3306 else port }
  | _ => refuse .noUrl

/-- The URL of a server. User and password are encoded, and the rest is written as it is. -/
def url (user password host port database : String) : String :=
  let credentials := Text.percentEncode user ++
    (if password.isEmpty then "" else ":" ++ Text.percentEncode password)
  "mysql://" ++ credentials ++ "@" ++ host ++ ":" ++ port ++ "/" ++ database

end Server

end RowQuery
