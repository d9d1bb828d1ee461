import Mathlib.Algebra.Group.Nat.Defs
import PasswordManager.Routes.Action

/-!
# Sessions

The configuration, the request headers, the two admin checks and `validate_auth`, which
every protected endpoint runs first.
-/

namespace PasswordManager
open Interaction

structure Config where
  databaseEncryptSecret : BytesN 32
  softwareSecret : BytesN 32
  databaseUrl : String
  dbPoolSize : Nat
  adminAllowedSubnet : String

/-- The headers of a request: the name and the raw value of each. -/
abbrev HeaderMap := List (String × Bytes)

/-- `HeaderValue::to_str`: only visible ASCII and tabs. -/
def headerToStr (value : Bytes) : Option String :=
  if value.all fun b => (32 ≤ b.toNat && b.toNat < 127) || b.toNat == 9 then
    some (String.ofList (value.map fun b => Char.ofNat b.toNat))
  else none

theorem headerToStr_asBytes {text : String}
    (visible : ∀ c ∈ text.toList, 32 ≤ c.toNat ∧ c.toNat < 127) :
    headerToStr (asBytes text) = some text := by
  have ascii : ∀ c ∈ text.toList, c.toNat < 128 := by
    intro c member
    have range := visible c member
    omega
  have codes : ∀ c ∈ text.toList, (UInt8.ofNat c.toNat).toNat = c.toNat := by
    intro c member
    have small := ascii c member
    rw [UInt8.toNat_ofNat']
    exact Nat.mod_eq_of_lt (by omega)
  have shown : (asBytes text).all fun b => (32 ≤ b.toNat && b.toNat < 127) || b.toNat == 9 := by
    rw [asBytes_toList ascii, List.all_map, List.all_eq_true]
    intro c member
    have range := visible c member
    simp [codes c member, range.1, range.2]
  have same : (asBytes text).map (fun b => Char.ofNat b.toNat) = text.toList := Hex.chars_asBytes ascii
  rw [headerToStr, if_pos shown, same, String.ofList_toList]

/-- `headers.get(name).and_then(|v| v.to_str().ok())` -/
def HeaderMap.getStr (headers : HeaderMap) (name : String) : Option String :=
  (headers.lookup name).bind headerToStr

inductive IpAddr where
  | v4 (bits : BitVec 32)
  | v6 (bits : BitVec 128)
  deriving DecidableEq

/-! ## Parsing the admin subnet -/

/-- The value of a nonempty string of decimal digits. -/
def parseDigits (cs : List Char) : Option Nat :=
  if cs ≠ [] ∧ cs.all Char.isDigit then
    some (cs.foldl (fun n c => n * 10 + (c.toNat - 48)) 0)
  else none

/-- `u8::from_str`, which accepts a leading plus sign. -/
def parseU8 (cs : List Char) : Option Nat :=
  (parseDigits (if cs.head? = some '+' then cs.tail else cs)).filter (· ≤ 255)

def parseU32 (cs : List Char) : Option Nat :=
  (parseDigits (if cs.head? = some '+' then cs.tail else cs)).filter (· < 2 ^ 32)

/-- One group of `Ipv4Addr::from_str`: at most three digits and no leading zero. -/
def parseOctet (cs : List Char) : Option Nat :=
  if cs.length ≤ 3 ∧ (cs.head? = some '0' → cs.length = 1) then
    (parseDigits cs).filter (· ≤ 255)
  else none

/-- `Ipv4Addr::from_str` -/
def parseIpv4 (cs : List Char) : Option (BitVec 32) :=
  match (cs.splitOn '.').mapM parseOctet with
  | some [a, b, c, d] => some (BitVec.ofNat 32 (((a * 256 + b) * 256 + c) * 256 + d))
  | _ => none

/-- `str::split_once` -/
def splitOnce (separator : Char) : List Char → Option (List Char × List Char)
  | [] => none
  | c :: cs =>
    if c = separator then some ([], cs)
    else (splitOnce separator cs).map fun (before, after) => (c :: before, after)

/-! ## `Config::from_env`, whose error is the list of its contexts from the outermost on -/

def decodeHexEnv (env : String → Option String) (key : String) : Except (List String) (BytesN 32) := do
  let val ← (env key).elim (.error [key ++ " must be set"]) .ok
  let bytes ← (Hex.decode val).elim (.error [key ++ " must be valid hex"]) .ok
  (BytesN.tryFrom 32 bytes).elim (.error [key ++ " must be exactly 32 bytes (64 hex chars)"]) .ok

def requireEnv (env : String → Option String) (key : String) : Except (List String) String :=
  (env key).elim (.error [key ++ " must be set"]) .ok

def Config.fromEnv (env : String → Option String) : Except (List String) Config := do
  let databaseEncryptSecret ← (decodeHexEnv env "DATABASEENCRYPTSECRET").mapError
    ("DATABASEENCRYPTSECRET" :: ·)
  let softwareSecret ← (decodeHexEnv env "SOFTWARESECRET").mapError ("SOFTWARESECRET" :: ·)
  let databaseUrl ← requireEnv env "DATABASE_URL"
  let _ ← requireEnv env "BIND_ADDR"
  let poolSize ← requireEnv env "DB_POOL_SIZE"
  let dbPoolSize ← (parseU32 poolSize.toList).elim
    (.error ["DB_POOL_SIZE must be a valid integer"]) .ok
  let adminAllowedSubnet ← requireEnv env "ADMIN_ALLOWED_SUBNET"
  return { databaseEncryptSecret, softwareSecret, databaseUrl, dbPoolSize, adminAllowedSubnet }

/-! ## The admin checks -/

def prefixMask (prefixLength : Nat) : BitVec 32 :=
  if prefixLength = 0 then 0 else BitVec.allOnes 32 <<< (32 - prefixLength)

def checkAdminIp (addr : IpAddr) (config : Config) : Except AppError Unit := do
  let cidr := config.adminAllowedSubnet.toList
  let (baseStr, prefixStr) := (splitOnce '/' cidr).getD (cidr, "32".toList)
  let base ← (parseIpv4 baseStr).elim
    (.error (.internal "invalid ADMIN_ALLOWED_SUBNET")) .ok
  let prefixLength ← (parseU8 prefixStr).elim
    (.error (.internal "invalid ADMIN_ALLOWED_SUBNET prefix")) .ok
  if prefixLength > 32 then
    .error (.internal "ADMIN_ALLOWED_SUBNET prefix must be 0-32")
  else
    match addr with
    | .v6 _ => .error unauthorized
    | .v4 ip =>
      let mask := prefixMask prefixLength
      if ip &&& mask = base &&& mask then .ok () else .error unauthorized

/-! The same with the overflow checks of its arithmetic, where nothing stands for a panic. -/

def subU8 (a b : Nat) : Option Nat := if b ≤ a then some (a - b) else none

def shlU32 (word : BitVec 32) (n : Nat) : Option (BitVec 32) := if n < 32 then some (word <<< n) else none

def checkedMask (prefixLength : Nat) : Option (BitVec 32) :=
  if prefixLength = 0 then some 0
  else do
    let n ← subU8 32 prefixLength
    shlU32 (BitVec.allOnes 32) n

def checkedAdminIp (addr : IpAddr) (config : Config) : Option (Except AppError Unit) :=
  let cidr := config.adminAllowedSubnet.toList
  let (baseStr, prefixStr) := (splitOnce '/' cidr).getD (cidr, "32".toList)
  match parseIpv4 baseStr with
  | none => some (.error (.internal "invalid ADMIN_ALLOWED_SUBNET"))
  | some base =>
    match parseU8 prefixStr with
    | none => some (.error (.internal "invalid ADMIN_ALLOWED_SUBNET prefix"))
    | some prefixLength =>
      if prefixLength > 32 then
        some (.error (.internal "ADMIN_ALLOWED_SUBNET prefix must be 0-32"))
      else
        match addr with
        | .v6 _ => some (.error unauthorized)
        | .v4 ip => do
          let mask ← checkedMask prefixLength
          return if ip &&& mask = base &&& mask then .ok () else .error unauthorized

def checkAdminKey (headers : HeaderMap) (config : Config) : Except AppError Unit := do
  let key ← (headers.getStr "admin-key").elim (.error unauthorized) .ok
  let expected := Hex.encode config.softwareSecret.val
  if asBytes key ≠ asBytes expected then .error unauthorized else .ok ()

/-- The two checks that every admin endpoint begins with. -/
def checkAdmin (headers : HeaderMap) (addr : IpAddr) (config : Config) : Except AppError Unit := do
  checkAdminKey headers config
  checkAdminIp addr config

variable [Crypto]

def validateAuth (headers : HeaderMap) (ip : String) : Handler Identity := do
  let deviceToken ← okOr (headers.getStr "device-token") unauthorized
  let conn ← stateConn
  let identity ← okOr (← Identity.findByDeviceToken conn (hashToken deviceToken)) unauthorized
  refuseIf (identity.ipAddress ≠ ip) unauthorized
  refuseIf (identity.isConfirmed = false) unauthorized
  let userId ← okOr identity.userId unauthorized
  let user ← okOr (← User.findByUuid conn userId) unauthorized
  refuseIf (user.isDeleted = true) unauthorized
  return identity

end PasswordManager
