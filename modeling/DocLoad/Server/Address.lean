import DocLoad.Text.Blank
import DocLoad.Text.Digits
import DocLoad.Text.Percent
import DocLoad.Text.Split

/-!
# DocLoad.Server.Address — connection strings

A connection string names the hosts of a deployment after `mongodb://`, or one host under which
they are to be looked up after `mongodb+srv://`.  It may add a user in front of them and a database
and options behind.  `Address.read` gives the hosts, or says what is wrong.
-/

namespace DocLoad.Server

/-- Where a server is: at a socket with a path, or at a name, perhaps with a number. -/
inductive Host where
  | socket (path : String)
  | named (name : String) (number : Option Nat)
deriving DecidableEq, Repr

/-- The parts of a connection string that matter for reaching a server. -/
structure Address where
  hosts : List Host
  /-- The hosts are only found by looking up the one that is named. -/
  lookedUp : Bool
deriving DecidableEq, Repr

namespace Address

/-! ## Numerals -/

/-- A number without a minus sign below a bound. -/
def natural? (bound : Nat) (cs : List Char) : Option Nat :=
  let digits := match cs with
    | '+' :: ds => ds
    | ds => ds
  (Text.readDecimal digits).filter (· < bound)

/-- An integer from `-bound` on and below `bound`. -/
def integer? (bound : Nat) (cs : List Char) : Option Int :=
  (Text.readInt cs).filter fun n => -(bound : Int) ≤ n && n < bound

/-! ## Hosts -/

/-- The end of a path that leads to a socket. -/
def socketEnding : List Char := ".sock".toList

/-- Reads a host: the path of a socket, or a name, and a number from 1 to 65535 if there is a
colon. -/
def readHost (cs : List Char) : Except String Host :=
  if socketEnding.isSuffixOf cs then
    match Text.percentDecode? cs with
    | some path => .ok (.socket path)
    | none => .error "invalid server address: the path is not text"
  else
    match Text.splitChar ':' cs with
    | [] | [] :: _ => .error "invalid server address: the host may not be empty"
    | [name] => .ok (.named (String.ofList name) none)
    | [name, number] =>
      match natural? 65536 number with
      | some (n + 1) => .ok (.named (String.ofList name) (some (n + 1)))
      | _ => .error "invalid server address: a number from 1 to 65535 must follow the colon"
    | _ => .error "invalid server address: more than one colon"

/-- The one host under which others are looked up must be a plain name. -/
def checkLookUp : List Host → Except String Unit
  | [.named _ none] => .ok ()
  | [_] => .error "a host that is looked up must be a name without a number"
  | _ => .error "exactly one host can be looked up"

/-! ## Options -/

/-- What the value of an option has to be. -/
inductive OptionKind where
  | boolean
  /-- Only `false`: what the option turns on cannot be had. -/
  | off
  /-- A number without a minus sign, from `least` on and below `bound`. -/
  | natural (least bound : Nat)
  /-- An age in seconds, or -1. -/
  | age
  | text
  | nonEmptyText
  /-- One of the given words in letters of either case. -/
  | word (choices : List String)
  /-- Pairs `key:value` between commas. -/
  | tags
  /-- The number of servers to wait for, or a name. -/
  | acknowledgement
deriving DecidableEq, Repr

/-- A duration in milliseconds. -/
def OptionKind.duration : OptionKind := .natural 0 UInt64.size

/-- A number of things. -/
def OptionKind.amount : OptionKind := .natural 0 UInt32.size

/-- The options that are known, in small letters.  Those that ask for authentication, certificates,
compression or a set of servers are not. -/
def optionKind? (key : String) : Option OptionKind :=
  match key with
  | "directconnection" | "journal" | "retryreads" | "retrywrites" | "ssl" | "tls"
  | "tlsallowinvalidcertificates" | "tlsinsecure" => some .boolean
  | "loadbalanced" => some .off
  | "connecttimeoutms" | "localthresholdms" | "maxidletimems" | "serverselectiontimeoutms"
  | "sockettimeoutms" | "waitqueuetimeoutms" | "wtimeoutms" => some .duration
  | "heartbeatfrequencyms" => some (.natural 500 UInt64.size)
  | "maxconnecting" | "maxpoolsize" | "minpoolsize" | "srvmaxhosts" => some .amount
  | "maxstalenessseconds" => some .age
  | "appname" | "readconcernlevel" | "srvservicename" => some .text
  | "authsource" => some .nonEmptyText
  | "readpreference" =>
    some (.word ["primary", "primarypreferred", "secondary", "secondarypreferred", "nearest"])
  | "readpreferencetags" => some .tags
  | "servermonitoringmode" => some (.word ["stream", "poll", "auto"])
  | "uuidrepresentation" => some (.word ["csharplegacy", "javalegacy", "pythonlegacy"])
  | "w" => some .acknowledgement
  | _ => none

/-- Whether a value is of a kind. -/
def OptionKind.admits (value : List Char) : OptionKind → Bool
  | boolean => value = "true".toList || value = "false".toList
  | off => value = "false".toList
  | natural least bound => match natural? bound value with
    | some n => least ≤ n
    | none => false
  | age => match integer? (Nat.pow 2 63) value with
    | some n => -1 ≤ n
    | none => false
  | text => true
  | nonEmptyText => !value.isEmpty
  | word choices => choices.contains (String.ofList (value.map Char.toLower))
  | tags => value.isEmpty || (Text.splitChar ',' value).all (·.contains ':')
  | acknowledgement => match integer? (Nat.pow 2 31) value with
    | some n => 0 ≤ n
    | none => true

/-- An option as it was written, with its value decoded. -/
structure Setting where
  key : String
  value : List Char
deriving DecidableEq, Repr

/-- The key of an option in small letters. -/
def Setting.name (s : Setting) : String :=
  String.ofList (s.key.toList.map Char.toLower)

/-- Reads an option `key=value`. -/
def readSetting (cs : List Char) : Except String Setting :=
  match Text.cutFirst '=' cs with
  | none => .error "invalid option: an equals sign is missing"
  | some (key, value) =>
    let decoded := ((Text.percentDecode? value).map String.toList).getD ['\uFFFD']
    let setting : Setting := ⟨String.ofList key, decoded⟩
    match optionKind? setting.name with
    | none => .error ("invalid option: " ++ setting.key)
    | some kind =>
      if kind.admits setting.value then .ok setting
      else .error ("invalid value of an option: " ++ setting.key)

/-- The value of the last option with a name. -/
def value? (name : String) (settings : List Setting) : Option String :=
  (settings.reverse.find? fun s => s.name = name).map fun s => String.ofList s.value

/-- Whether two options have the same key, other than the tags of a preference. -/
def repeated : List Setting → Bool
  | [] => false
  | s :: rest =>
    (s.name ≠ "readpreferencetags" && rest.any fun t => t.key = s.key) || repeated rest

/-- Refuses options that do not go together, or not with so many hosts. -/
def checkTogether (hosts : List Host) (settings : List Setting) : Except String Unit := do
  let has := fun name value => value? name settings = some value
  let given := fun name => (value? name settings).isSome
  if repeated settings then throw "an option is given twice"
  if given "readpreferencetags" || given "maxstalenessseconds" then
    match value? "readpreference" settings with
    | none => throw "tags and ages need a preference"
    | some mode =>
      if Text.lowerAscii mode = "primary" then throw "the primary server has no tags or ages"
  if given "tls" && given "ssl" && value? "tls" settings ≠ value? "ssl" settings then
    throw "one option turns encryption on and another one off"
  if has "w" "0" && has "journal" "true" then
    throw "a write cannot be journalled without being acknowledged"
  if has "directconnection" "true" && 1 < hosts.length then
    throw "a direct connection has one host"

/-- The options between the ampersands. -/
def readSettings (cs : List Char) : Except String (List Setting) :=
  if cs.isEmpty then .ok [] else (Text.splitChar '&' cs).mapM readSetting

/-! ## Connection strings -/

/-- The characters that the name of a database cannot have. -/
def illegalInDatabase : List Char := ['/', '\\', ' ', '"', '$']

/-- Checks the name of a database. -/
def checkDatabase (cs : List Char) : Except String Unit :=
  match Text.percentDecode? cs with
  | none => .error "the name of the database is not text"
  | some s =>
    if s.toList.any illegalInDatabase.contains then
      .error "illegal character in the name of the database"
    else .ok ()

/-- What stands behind the last `@`, or everything. -/
def dropUser (cs : List Char) : List Char :=
  ((Text.splitChar '@' cs).getLast?).getD cs

/-- Reads what stands behind the scheme: hosts, and behind a slash a database name and options, both
of which may be missing. -/
def readRest (lookedUp : Bool) (cs : List Char) : Except String Address := do
  if !cs.contains '/' && cs.contains '?' then throw "a slash is missing before the options"
  let (front, tail) := (Text.cutFirst '/' cs).getD (cs, [])
  let (database, options) := (Text.cutFirst '?' tail).getD (tail, [])
  checkDatabase database
  let hosts ← (Text.splitChar ',' (dropUser front)).mapM readHost
  if lookedUp then checkLookUp hosts
  checkTogether hosts (← readSettings options)
  return ⟨hosts, lookedUp⟩

/-- Reads a connection string. -/
def read (url : String) : Except String Address :=
  let cs := url.toList
  let plain := "mongodb://".toList
  let looked := "mongodb+srv://".toList
  if plain.isPrefixOf cs then readRest false (cs.drop plain.length)
  else if looked.isPrefixOf cs then readRest true (cs.drop looked.length)
  else .error "a connection string starts with mongodb:// or mongodb+srv://"

end Address
end DocLoad.Server
