import PasswordManager.Routes.Session

/-!
# The admin's address and key

`check_admin_ip` accepts exactly the peers in the configured subnet, and `check_admin_key` the
lower-case spelling of the configured secret.
-/

namespace PasswordManager

/-! ## Addresses as text -/

def dotted (a b c d : UInt8) : List Char :=
  Nat.toDigits 10 a.toNat ++ '.' :: (Nat.toDigits 10 b.toNat ++ '.' ::
    (Nat.toDigits 10 c.toNat ++ '.' :: Nat.toDigits 10 d.toNat))

def address (a b c d : UInt8) : BitVec 32 :=
  BitVec.ofNat 32 (((a.toNat * 256 + b.toNat) * 256 + c.toNat) * 256 + d.toNat)

/-- The subnet that a text denotes: an address, and the number of leading bits that count. -/
inductive Subnet : List Char → BitVec 32 → Nat → Prop where
  | host (a b c d : UInt8) : Subnet (dotted a b c d) (address a b c d) 32
  | block (a b c d : UInt8) {number : List Char} {p : Nat} (parsed : parseU8 number = some p) :
      Subnet (dotted a b c d ++ '/' :: number) (address a b c d) p

theorem digit_of_isDigit {c : Char} (digit : c.isDigit) : ∃ k : Fin 10, c = Nat.digitChar k := by
  simp only [Char.isDigit, Bool.and_eq_true, decide_eq_true_eq, UInt32.le_iff_toNat_le] at digit
  have low : 48 ≤ c.toNat := digit.1
  have high : c.toNat ≤ 57 := digit.2
  refine ⟨⟨c.toNat - 48, by omega⟩, Char.toNat_inj.mp ?_⟩
  rw [Nat.toNat_digitChar_of_lt_ten (by omega)]
  show c.toNat = 48 + (c.toNat - 48)
  omega

/-- An octet is written in decimal, without leading zeros. -/
theorem parseOctet_eq_some {cs : List Char} {n : Nat} :
    parseOctet cs = some n ↔ ∃ a : UInt8, n = a.toNat ∧ cs = Nat.toDigits 10 a.toNat := by
  constructor
  · intro parsed
    have one : ∀ i : Fin 10, (parseOctet [Nat.digitChar i]).all fun n =>
        n < 256 && [Nat.digitChar i] == Nat.toDigits 10 n := by decide
    have two : ∀ i j : Fin 10, (parseOctet [Nat.digitChar i, Nat.digitChar j]).all fun n =>
        n < 256 && [Nat.digitChar i, Nat.digitChar j] == Nat.toDigits 10 n := by decide +kernel
    have three : ∀ i j k : Fin 10,
        (parseOctet [Nat.digitChar i, Nat.digitChar j, Nat.digitChar k]).all fun n =>
          n < 256 && [Nat.digitChar i, Nat.digitChar j, Nat.digitChar k] == Nat.toDigits 10 n := by
      decide +kernel
    have digits : cs.length ≤ 3 ∧ cs ≠ [] ∧ ∀ c ∈ cs, c.isDigit := by
      unfold parseOctet parseDigits at parsed
      split at parsed
      · split at parsed
        · rename_i short all
          exact ⟨short.1, all.1, List.all_eq_true.mp all.2⟩
        · cases parsed
      · cases parsed
    have canonical : n < 256 ∧ cs = Nat.toDigits 10 n := by
      obtain ⟨short, nonempty, all⟩ := digits
      match cs, short, nonempty, all, parsed with
      | [x], _, _, all, parsed =>
        obtain ⟨i, rfl⟩ := digit_of_isDigit (all x (by simp))
        simpa [parsed] using one i
      | [x, y], _, _, all, parsed =>
        obtain ⟨i, rfl⟩ := digit_of_isDigit (all x (by simp))
        obtain ⟨j, rfl⟩ := digit_of_isDigit (all y (by simp))
        simpa [parsed] using two i j
      | [x, y, z], _, _, all, parsed =>
        obtain ⟨i, rfl⟩ := digit_of_isDigit (all x (by simp))
        obtain ⟨j, rfl⟩ := digit_of_isDigit (all y (by simp))
        obtain ⟨k, rfl⟩ := digit_of_isDigit (all z (by simp))
        simpa [parsed] using three i j k
    have same : (UInt8.ofNat n).toNat = n := UInt8.toNat_ofNat_of_lt' canonical.1
    exact ⟨UInt8.ofNat n, same.symm, by rw [same]; exact canonical.2⟩
  · rintro ⟨a, rfl, rfl⟩
    have all : ∀ k : Fin 256, parseOctet (Nat.toDigits 10 k) = some k.val := by decide +kernel
    exact all ⟨a.toNat, a.toNat_lt⟩

theorem notMem_toDigits {c : Char} (low : c.toNat < 48) (a : UInt8) : c ∉ Nat.toDigits 10 a.toNat := by
  have all : ∀ k : Fin 256, (Nat.toDigits 10 k).all fun c => decide (48 ≤ c.toNat) := by decide +kernel
  intro member
  have high := of_decide_eq_true (List.all_eq_true.mp (all ⟨a.toNat, a.toNat_lt⟩) c member)
  omega

theorem dot_dotted (a b c d : UInt8) : (dotted a b c d).splitOn '.' =
    [Nat.toDigits 10 a.toNat, Nat.toDigits 10 b.toNat, Nat.toDigits 10 c.toNat, Nat.toDigits 10 d.toNat] := by
  have dot : '.'.toNat < 48 := by decide
  rw [dotted, List.splitOn_append_cons_self_of_not_mem (notMem_toDigits dot a),
    List.splitOn_append_cons_self_of_not_mem (notMem_toDigits dot b),
    List.splitOn_append_cons_self_of_not_mem (notMem_toDigits dot c),
    List.splitOn_eq_singleton (notMem_toDigits dot d)]

theorem parseIpv4_dotted (a b c d : UInt8) : parseIpv4 (dotted a b c d) = some (address a b c d) := by
  have octet : ∀ a : UInt8, parseOctet (Nat.toDigits 10 a.toNat) = some a.toNat :=
    fun a => parseOctet_eq_some.mpr ⟨a, rfl, rfl⟩
  simp only [parseIpv4, dot_dotted, List.mapM_cons, List.mapM_nil, octet, Option.bind_eq_bind,
    Option.bind_some, Option.pure_def]
  rfl

theorem mapM_eq_nil {α β : Type} {f : α → Option β} {l : List α} (read : l.mapM f = some []) : l = [] := by
  cases l with
  | nil => rfl
  | cons a l => simp [Option.bind_eq_some_iff] at read

theorem mapM_eq_cons {α β : Type} {f : α → Option β} {l : List α} {b : β} {bs : List β}
    (read : l.mapM f = some (b :: bs)) : ∃ a rest, l = a :: rest ∧ f a = some b ∧ rest.mapM f = some bs := by
  cases l with
  | nil => simp at read
  | cons a l =>
    simp only [List.mapM_cons, Option.bind_eq_bind, Option.pure_def, Option.bind_eq_some_iff,
      Option.some.injEq, List.cons.injEq] at read
    obtain ⟨_, first, _, later, rfl, rfl⟩ := read
    exact ⟨a, l, rfl, first, later⟩

/-- Only addresses are read as addresses. -/
theorem parseIpv4_eq_some {cs : List Char} {base : BitVec 32} (parsed : parseIpv4 cs = some base) :
    ∃ a b c d : UInt8, cs = dotted a b c d ∧ base = address a b c d := by
  unfold parseIpv4 at parsed
  split at parsed
  · rename_i octets
    obtain ⟨_, _, pieces, first, octets⟩ := mapM_eq_cons octets
    obtain ⟨_, _, rfl, second, octets⟩ := mapM_eq_cons octets
    obtain ⟨_, _, rfl, third, octets⟩ := mapM_eq_cons octets
    obtain ⟨_, _, rfl, fourth, octets⟩ := mapM_eq_cons octets
    obtain rfl := mapM_eq_nil octets
    obtain ⟨a, rfl, rfl⟩ := parseOctet_eq_some.mp first
    obtain ⟨b, rfl, rfl⟩ := parseOctet_eq_some.mp second
    obtain ⟨c, rfl, rfl⟩ := parseOctet_eq_some.mp third
    obtain ⟨d, rfl, rfl⟩ := parseOctet_eq_some.mp fourth
    refine ⟨a, b, c, d, ?_, (Option.some.inj parsed).symm⟩
    have whole : ['.'].intercalate (cs.splitOn '.') = cs := List.intercalate_splitOn '.'
    rw [pieces] at whole
    rw [← whole]
    simp [dotted, List.intercalate]
  · cases parsed

theorem splitOnce_append {separator : Char} {before : List Char} (absent : separator ∉ before)
    (after : List Char) : splitOnce separator (before ++ separator :: after) = some (before, after) := by
  induction before with
  | nil => exact if_pos rfl
  | cons c before ih =>
    have other : c ≠ separator := fun same => absent (same ▸ List.mem_cons_self)
    have rest := ih fun member => absent (List.mem_cons_of_mem _ member)
    rw [List.cons_append, splitOnce, if_neg other, rest]
    rfl

theorem splitOnce_none {separator : Char} {cs : List Char} (absent : separator ∉ cs) :
    splitOnce separator cs = none := by
  induction cs with
  | nil => rfl
  | cons c cs ih =>
    have other : c ≠ separator := fun same => absent (same ▸ List.mem_cons_self)
    rw [splitOnce, if_neg other, ih fun member => absent (List.mem_cons_of_mem _ member)]
    rfl

theorem splitOnce_eq_some {separator : Char} {cs before after : List Char}
    (found : splitOnce separator cs = some (before, after)) : cs = before ++ separator :: after := by
  induction cs generalizing before with
  | nil => cases found
  | cons c cs ih =>
    unfold splitOnce at found
    split at found
    · rename_i here
      cases found
      rw [here]
      rfl
    · obtain ⟨⟨start, rest⟩, later, same⟩ := Option.map_eq_some_iff.mp found
      cases same
      rw [List.cons_append, ← ih later]

/-- The configured text with what its two parts are read as. -/
theorem subnet_iff {cs : List Char} {base : BitVec 32} {p : Nat} :
    Subnet cs base p ↔
      parseIpv4 ((splitOnce '/' cs).getD (cs, "32".toList)).1 = some base ∧
        parseU8 ((splitOnce '/' cs).getD (cs, "32".toList)).2 = some p := by
  have slash : ∀ a b c d : UInt8, '/' ∉ dotted a b c d := by
    intro a b c d
    have low : '/'.toNat < 48 := by decide
    simp [dotted, notMem_toDigits low]
  constructor
  · rintro (⟨a, b, c, d⟩ | ⟨a, b, c, d, parsed⟩)
    · rw [splitOnce_none (slash a b c d)]
      exact ⟨parseIpv4_dotted a b c d, rfl⟩
    · rw [splitOnce_append (slash a b c d)]
      exact ⟨parseIpv4_dotted a b c d, parsed⟩
  · rintro ⟨named, number⟩
    obtain ⟨a, b, c, d, same, rfl⟩ := parseIpv4_eq_some named
    cases found : splitOnce '/' cs with
    | none =>
      rw [found] at same number
      obtain rfl : 32 = p := Option.some.inj number
      obtain rfl : cs = dotted a b c d := same
      exact .host a b c d
    | some parts =>
      obtain ⟨before, after⟩ := parts
      rw [found] at same number
      obtain rfl : before = dotted a b c d := same
      rw [splitOnce_eq_some found]
      exact .block a b c d number

/-! ## Masks -/

theorem prefixMask_bit {p : Nat} (fits : p ≤ 32) (i : Nat) : (prefixMask p).getMsbD i = decide (i < p) := by
  unfold prefixMask
  split
  · subst p
    simp
  · rw [BitVec.getMsbD_shiftLeft, BitVec.getMsbD_allOnes, decide_eq_decide]
    omega

theorem masked_eq_iff {p : Nat} (fits : p ≤ 32) (x y : BitVec 32) :
    x &&& prefixMask p = y &&& prefixMask p ↔ ∀ i < p, x.getMsbD i = y.getMsbD i := by
  constructor
  · intro same i leading
    have bit := congrArg (BitVec.getMsbD · i) same
    simpa [prefixMask_bit fits, leading] using bit
  · intro agree
    refine BitVec.eq_of_getMsbD_eq fun i _ => ?_
    rw [BitVec.getMsbD_and, BitVec.getMsbD_and, prefixMask_bit fits]
    by_cases leading : i < p
    · rw [agree i leading]
    · simp [leading]

/-- The subtraction stays within a byte and the shift within the word. -/
theorem checkedMask_ok {p : Nat} (fits : p ≤ 32) : checkedMask p = some (prefixMask p) := by
  unfold checkedMask prefixMask
  split
  · rfl
  · have shift : 32 - p < 32 := by omega
    simp only [subU8, shlU32, fits, shift, if_true, Option.bind_eq_bind, Option.bind_some]

/-! ## The peer's address -/

/-- The check, once the two parts of the configured text are read. -/
theorem checkAdminIp_subnet {config : Config} {base : BitVec 32} {p : Nat}
    (subnet : Subnet config.adminAllowedSubnet.toList base p) (addr : IpAddr) :
    checkAdminIp addr config =
      if p > 32 then .error (.internal "ADMIN_ALLOWED_SUBNET prefix must be 0-32")
      else match addr with
        | .v6 _ => .error unauthorized
        | .v4 ip => if ip &&& prefixMask p = base &&& prefixMask p then .ok () else .error unauthorized := by
  obtain ⟨named, number⟩ := subnet_iff.mp subnet
  cases addr <;> simp only [checkAdminIp, named, number, Option.elim, bind, Except.bind]

theorem checkedAdminIp_eq (addr : IpAddr) (config : Config) :
    checkedAdminIp addr config = some (checkAdminIp addr config) := by
  simp only [checkedAdminIp, checkAdminIp]
  cases parseIpv4 ((splitOnce '/' config.adminAllowedSubnet.toList).getD
      (config.adminAllowedSubnet.toList, "32".toList)).1 with
  | none => rfl
  | some base =>
    cases parseU8 ((splitOnce '/' config.adminAllowedSubnet.toList).getD
        (config.adminAllowedSubnet.toList, "32".toList)).2 with
    | none => rfl
    | some p =>
      simp only [Option.elim, bind, Except.bind]
      by_cases large : p > 32
      · rw [if_pos large, if_pos large]
      · rw [if_neg large, if_neg large]
        cases addr with
        | v6 => rfl
        | v4 ip =>
          simp only [checkedMask_ok (Nat.le_of_not_lt large)]
          rfl

theorem checkAdminIp_malformed {config : Config}
    (malformed : ¬∃ base p, Subnet config.adminAllowedSubnet.toList base p) (addr : IpAddr) :
    ∃ message, checkAdminIp addr config = .error (.internal message) := by
  cases named : parseIpv4 ((splitOnce '/' config.adminAllowedSubnet.toList).getD
      (config.adminAllowedSubnet.toList, "32".toList)).1 with
  | none =>
    refine ⟨"invalid ADMIN_ALLOWED_SUBNET", ?_⟩
    simp only [checkAdminIp, named, Option.elim, bind, Except.bind]
  | some base =>
    cases number : parseU8 ((splitOnce '/' config.adminAllowedSubnet.toList).getD
        (config.adminAllowedSubnet.toList, "32".toList)).2 with
    | none =>
      refine ⟨"invalid ADMIN_ALLOWED_SUBNET prefix", ?_⟩
      simp only [checkAdminIp, named, number, Option.elim, bind, Except.bind]
    | some p => exact absurd ⟨base, p, subnet_iff.mpr ⟨named, number⟩⟩ malformed

/-- The peers that the configured subnet contains are accepted, any other peer is refused, and a
text that denotes no subnet is an internal error. No arithmetic overflows. -/
theorem checkAdminIp_cidr (config : Config) (addr : IpAddr) :
    (checkAdminIp addr config = .ok () ↔
      ∃ base p peer, Subnet config.adminAllowedSubnet.toList base p ∧ p ≤ 32 ∧ addr = .v4 peer ∧
        ∀ i < p, peer.getMsbD i = base.getMsbD i) ∧
    ((¬∃ base p, Subnet config.adminAllowedSubnet.toList base p ∧ p ≤ 32) →
      ∃ message, checkAdminIp addr config = .error (.internal message)) ∧
    ((∃ base p, Subnet config.adminAllowedSubnet.toList base p ∧ p ≤ 32) →
      checkAdminIp addr config = .ok () ∨ checkAdminIp addr config = .error unauthorized) ∧
    checkedAdminIp addr config = some (checkAdminIp addr config) := by
  refine ⟨⟨fun accepted => ?_, ?_⟩, fun outside => ?_, ?_, checkedAdminIp_eq addr config⟩
  · by_cases denotes : ∃ base p, Subnet config.adminAllowedSubnet.toList base p
    · obtain ⟨base, p, subnet⟩ := denotes
      rw [checkAdminIp_subnet subnet] at accepted
      split at accepted
      · cases accepted
      · rename_i small
        have fits : p ≤ 32 := Nat.le_of_not_lt small
        cases addr with
        | v6 bits => cases accepted
        | v4 peer =>
          refine ⟨base, p, peer, subnet, fits, rfl, (masked_eq_iff fits peer base).mp ?_⟩
          by_contra differ
          simp only [if_neg differ] at accepted
          cases accepted
    · obtain ⟨message, failed⟩ := checkAdminIp_malformed denotes addr
      rw [failed] at accepted
      cases accepted
  · rintro ⟨base, p, peer, subnet, fits, rfl, agree⟩
    rw [checkAdminIp_subnet subnet, if_neg (Nat.not_lt.mpr fits)]
    exact if_pos ((masked_eq_iff fits peer base).mpr agree)
  · by_cases denotes : ∃ base p, Subnet config.adminAllowedSubnet.toList base p
    · obtain ⟨base, p, subnet⟩ := denotes
      have large : p > 32 := Nat.lt_of_not_le fun fits => outside ⟨base, p, subnet, fits⟩
      exact ⟨_, by rw [checkAdminIp_subnet subnet, if_pos large]⟩
    · exact checkAdminIp_malformed denotes addr
  · rintro ⟨base, p, subnet, fits⟩
    rw [checkAdminIp_subnet subnet, if_neg (Nat.not_lt.mpr fits)]
    cases addr with
    | v6 bits => exact .inr rfl
    | v4 peer =>
      by_cases same : peer &&& prefixMask p = base &&& prefixMask p
      · exact .inl (if_pos same)
      · exact .inr (if_neg same)

/-! ## The admin's key -/

theorem bind_eq_ok {ε α β : Type} {x : Except ε α} {f : α → Except ε β} {v : β}
    (done : (x >>= f) = .ok v) : ∃ a, x = .ok a ∧ f a = .ok v := by
  cases x with
  | error e => cases done
  | ok a => exact ⟨a, rfl, done⟩

theorem decodeHexEnv_ok {env : String → Option String} {key text : String} {secret : BytesN 32}
    (set : env key = some text) (decoded : decodeHexEnv env key = .ok secret) :
    Hex.decode text = some secret.val := by
  unfold decodeHexEnv at decoded
  rw [set] at decoded
  obtain ⟨_, ⟨⟩, decoded⟩ := bind_eq_ok decoded
  obtain ⟨bytes, hex, sized⟩ := bind_eq_ok decoded
  cases parsed : Hex.decode text with
  | none =>
    rw [parsed] at hex
    cases hex
  | some all =>
    rw [parsed] at hex
    cases hex
    unfold BytesN.tryFrom at sized
    split at sized
    · cases sized
      rfl
    · cases sized

/-- The secret is the one that the variable spells. -/
theorem fromEnv_secret {env : String → Option String} {config : Config} {secret : String}
    (read : Config.fromEnv env = .ok config) (set : env "SOFTWARESECRET" = some secret) :
    Hex.decode secret = some config.softwareSecret.val := by
  unfold Config.fromEnv at read
  obtain ⟨databaseKey, -, read⟩ := bind_eq_ok read
  obtain ⟨key, mapped, read⟩ := bind_eq_ok read
  obtain ⟨url, -, read⟩ := bind_eq_ok read
  obtain ⟨bindAddr, -, read⟩ := bind_eq_ok read
  obtain ⟨poolSize, -, read⟩ := bind_eq_ok read
  obtain ⟨size, -, read⟩ := bind_eq_ok read
  obtain ⟨subnet, -, read⟩ := bind_eq_ok read
  cases read
  cases decoded : decodeHexEnv env "SOFTWARESECRET" with
  | error contexts =>
    rw [decoded] at mapped
    cases mapped
  | ok bytes =>
    rw [decoded] at mapped
    cases mapped
    exact decodeHexEnv_ok set decoded

theorem checkAdminKey_eq (headers : HeaderMap) (config : Config) :
    checkAdminKey headers config =
      if headers.getStr "admin-key" = some (Hex.encode config.softwareSecret.val) then .ok ()
      else .error unauthorized := by
  unfold checkAdminKey
  cases headers.getStr "admin-key" with
  | none => rfl
  | some key =>
    show (if _ then _ else _) = _
    by_cases same : key = Hex.encode config.softwareSecret.val
    · rw [same]
      simp
    · have differ : asBytes key ≠ asBytes (Hex.encode config.softwareSecret.val) :=
        fun equal => same (asBytes_injective equal)
      simp [differ, same]

/-- The value of the variable is accepted as the admin key, and what does not decode to the same
bytes is refused. -/
structure KeyAgrees (secret : String) (config : Config) : Prop where
  accepted : ∀ headers : HeaderMap, headers.lookup "admin-key" = some (asBytes secret) →
    checkAdminKey headers config = .ok ()
  refused : ∀ headers : HeaderMap,
    (∀ key ∈ headers.getStr "admin-key", Hex.decode key ≠ Hex.decode secret) →
      checkAdminKey headers config = .error unauthorized

theorem header_decoded {secret : String} {bytes : Bytes} (decoded : Hex.decode secret = some bytes)
    {headers : HeaderMap} (sent : headers.lookup "admin-key" = some (asBytes secret)) :
    headers.getStr "admin-key" = some secret := by
  rw [HeaderMap.getStr, sent]
  exact headerToStr_asBytes (Hex.decode_visible decoded)

theorem lower_of_agrees {secret : String} {config : Config}
    (decoded : Hex.decode secret = some config.softwareSecret.val) (agrees : KeyAgrees secret config) :
    ∀ c ∈ secret.toList, ¬c.isUpper := by
  have sent : HeaderMap.getStr [("admin-key", asBytes secret)] "admin-key" = some secret :=
    header_decoded decoded rfl
  have accepted := agrees.accepted [("admin-key", asBytes secret)] rfl
  rw [checkAdminKey_eq, sent] at accepted
  rw [← Hex.encode_decoded decoded]
  by_contra differ
  rw [if_neg fun same => differ (Option.some.inj same).symm] at accepted
  cases accepted

theorem agrees_of_lower {secret : String} {config : Config}
    (decoded : Hex.decode secret = some config.softwareSecret.val)
    (lower : ∀ c ∈ secret.toList, ¬c.isUpper) : KeyAgrees secret config := by
  have encoded := (Hex.encode_decoded decoded).mpr lower
  constructor
  · intro headers sent
    rw [checkAdminKey_eq, header_decoded decoded sent, encoded]
    exact if_pos rfl
  · intro headers other
    rw [checkAdminKey_eq, encoded, if_neg]
    intro same
    exact other secret same rfl

/-- The configured value is the accepted one if and only if it has no upper-case digit. -/
theorem keyAgrees_iff {env : String → Option String} {config : Config} {secret : String}
    (read : Config.fromEnv env = .ok config) (set : env "SOFTWARESECRET" = some secret) :
    KeyAgrees secret config ↔ ∀ c ∈ secret.toList, ¬c.isUpper := by
  have decoded := fromEnv_secret read set
  exact ⟨lower_of_agrees decoded, agrees_of_lower decoded⟩

/-- The values of `.env.example`, with another secret. -/
def exampleEnv (secret : String) : String → Option String
  | "DATABASEENCRYPTSECRET" => some (String.ofList (List.replicate 64 '0'))
  | "SOFTWARESECRET" => some secret
  | "DATABASE_URL" => some "/data/pwd_manager.db"
  | "BIND_ADDR" => some "0.0.0.0:53971"
  | "DB_POOL_SIZE" => some "5"
  | "ADMIN_ALLOWED_SUBNET" => some "10.0.0.0/24"
  | _ => none

theorem isOk_ok {ε α : Type} {x : Except ε α} (ok : x.isOk) : ∃ a, x = .ok a := by
  cases x with
  | error e => cases ok
  | ok a => exact ⟨a, rfl⟩

theorem keyAgrees_lower : ∃ config,
    Config.fromEnv (exampleEnv (String.ofList (List.replicate 64 'a'))) = .ok config ∧
      KeyAgrees (String.ofList (List.replicate 64 'a')) config := by
  have valid : (Config.fromEnv (exampleEnv (String.ofList (List.replicate 64 'a')))).isOk := by
    decide +kernel
  obtain ⟨config, read⟩ := isOk_ok valid
  refine ⟨config, read, (keyAgrees_iff read rfl).mpr fun c member => ?_⟩
  rw [String.toList_ofList] at member
  rw [List.eq_of_mem_replicate member]
  decide

/-- A secret in upper case is accepted at the start, and refused as the admin key. -/
theorem upper_case_refused : ∃ config,
    Config.fromEnv (exampleEnv (String.ofList (List.replicate 64 'A'))) = .ok config ∧
      ¬KeyAgrees (String.ofList (List.replicate 64 'A')) config := by
  have valid : (Config.fromEnv (exampleEnv (String.ofList (List.replicate 64 'A')))).isOk := by
    decide +kernel
  obtain ⟨config, read⟩ := isOk_ok valid
  refine ⟨config, read, fun agrees => ?_⟩
  have lower := lower_of_agrees (fromEnv_secret read rfl) agrees
  rw [String.toList_ofList] at lower
  exact absurd (lower 'A' (List.mem_replicate.mpr ⟨by decide, rfl⟩)) (by decide)

end PasswordManager
