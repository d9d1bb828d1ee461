import PasswordManager.Server.Rules

/-!
# Specifications of the handlers

Every handler keeps to `Justified` and its results to `Settled`.
-/

namespace PasswordManager
open Interaction

variable {config : Config} {req : Request} {h : History Action.Answer} {α β : Type}

/-! ## Export -/

theorem plain_fileOr {error : String → AppError} {x : Files (Except String α)} (spec : Plain x) :
    Plain (fileOr error x) := by
  refine plain_bind spec fun r h => ?_
  cases r with
  | ok v => exact trivial
  | error m => exact .inr rfl

theorem plain_exportHandler (config : Config) [Archive] {headers : HeaderMap} {addr : IpAddr} :
    Plain (exportHandler config headers addr) := by
  unfold exportHandler
  refine plain_bind plain_attempt fun _ => ?_
  refine plain_bind (plain_fileOr plain_perform) fun _ => ?_
  refine plain_bind (plain_fileOr plain_perform) fun dbData => ?_
  refine plain_bind plain_perform fun now h => ?_
  split
  · trivial
  · exact .inr rfl

variable [Crypto] {good : History Action.Answer → β → Prop}

/-! ## Devices -/

theorem serves_greet {ip : String} {body : GreetRequest} :
    Serves config (.greet ip body) (fun h key => Outcome config (.greet ip body) h (.greet key)) []
      (greetHandler config ip body) := by
  unfold greetHandler
  refine serves_stateConn fun pool conn => ?_
  refine serves_okOr fun key decoded => ?_
  refine serves_refuseIf fun size => ?_
  refine serves_identify rfl (by simp [Action.identifies]) fun existing => ?_
  refine serves_refuseIf fun vacant => ?_
  refine serves_generateIdentityKeys fun random => ?_
  refine serves_newUuid fun uuid => ?_
  refine serves_encrypt fun nonce blob sealed => ?_
  intro quiet
  rw [Fallible.spec_bind]
  refine spec_query.mpr ⟨?_, fun row => ?_, fun e => ?_⟩
  · exact quiet.justified rfl (.greet decoded (not_not.mp size) rfl ⟨nonce, sealed⟩)
  · exact ⟨conn, _, row, List.mem_cons_self, rfl⟩
  · cases e with
    | notFound => exact (Unwritten.cons rfl quiet.unwritten).backend
    | databaseError kind message => cases kind with
      | uniqueViolation => exact (Unwritten.cons rfl quiet.unwritten).request
      | foreignKeyViolation => exact (Unwritten.cons rfl quiet.unwritten).backend
      | unknown => exact (Unwritten.cons rfl quiet.unwritten).backend

theorem corrupt_identity {conn : Conn} {q : Query} {a : q.Answer} {identity : Identity}
    {e : AppError} (member : answered conn q a ∈ h)
    (readable : q.Readable config a → identity.Usable config)
    (failed : openSharedKey identity config = .error e) : Corrupt config h :=
  ⟨conn, q, a, member, fun usable => unusable_identity failed (readable usable)⟩

theorem serves_decodeRequest {conn : Conn} {ip : String} {body : SignRequest}
    {f : Identity × String × Bytes → Handler β} (first : ∀ e ∈ h, e.action.identifies = false)
    (next : ∀ identity name ehlo,
      Decoded config (answered conn (.identityFindByIp ip) (some identity) :: h) ip body identity
        name ehlo →
      Serves config req good (answered conn (.identityFindByIp ip) (some identity) :: h)
        (f (identity, name, ehlo))) :
    Serves config req good h (decodeRequest config conn ip body >>= f) := by
  unfold decodeRequest
  simp only [bind_assoc, pure_bind]
  refine serves_identify rfl first fun found => ?_
  refine serves_okOr fun identity present => ?_
  subst present
  refine serves_stored (fun _ => corrupt_identity List.mem_cons_self fun usable => usable _ rfl)
    fun key opened => ?_
  refine serves_okOr fun nameBytes nameHex => ?_
  refine serves_okOr fun ehloBytes ehloHex => ?_
  refine serves_request fun nameText nameOpened => ?_
  refine serves_request fun ehlo ehloOpened => ?_
  refine serves_okOr fun name utf8 => ?_
  refine next identity name ehlo ⟨⟨conn, List.mem_cons_self⟩, ?_, ?_⟩
  · rw [Opens, fromUtf8_eq_some utf8]
    exact ⟨nameBytes, key, nameHex, opened, nameOpened⟩
  · exact ⟨ehloBytes, key, ehloHex, opened, ehloOpened⟩

theorem serves_signUp {ip : String} {body : SignRequest} :
    Serves config (.signUp ip body) (fun h t => Outcome config (.signUp ip body) h (.token t)) []
      (signUpHandler config ip body) := by
  unfold signUpHandler
  refine serves_stateConn fun pool conn => ?_
  refine serves_decodeRequest (by simp [Action.identifies]) fun identity name ehlo decoded => ?_
  refine serves_request fun _ valid => ?_
  refine serves_encrypt fun nonce blob sealed => ?_
  intro quiet
  rw [Fallible.spec_bind, spec_transaction]
  refine ⟨quiet.justified rfl ?_, fun done => ?_, fun e => ?_⟩
  · exact .signUp (decoded.mono (List.subset_cons_self _ _)) valid ⟨nonce, sealed⟩
  · exact ⟨conn, _, done.1, List.mem_cons_self⟩
  · exact .rolledBack ⟨conn, _, List.mem_cons_self⟩ (Unwritten.cons rfl quiet.unwritten)

theorem serves_linkDevice {conn : Conn} {uuid userId : String}
    (write : ∀ token now, Write config req (readClock now :: drewUuid token :: h)
      (.effect (.sql conn (.identityUpdate uuid (linkChanges userId token.toString) now))))
    {good : History Action.Answer → String → Prop}
    (done : ∀ token now row, good
      (answered conn (.identityUpdate uuid (linkChanges userId token.toString) now) row ::
        readClock now :: drewUuid token :: h) token.toString) :
    Serves config req good h (liftM (linkDevice conn uuid userId) : Handler String) := by
  unfold linkDevice
  rw [lift_bind]
  refine serves_newUuid fun token => ?_
  rw [lift_bind]
  exact serves_identityUpdate (write token) (done token)

theorem serves_signIn {ip : String} {body : SignRequest} :
    Serves config (.signIn ip body) (fun h t => Outcome config (.signIn ip body) h (.token t)) []
      (signInHandler config ip body) := by
  unfold signInHandler
  refine serves_stateConn fun pool conn => ?_
  refine serves_decodeRequest (by simp [Action.identifies]) fun identity name ehlo decoded => ?_
  refine serves_read rfl rfl fun found => ?_
  refine serves_okOr fun user present => ?_
  subst present
  refine serves_refuseIf fun active => ?_
  refine serves_stored (fun e failed => ⟨conn, _, _, List.mem_cons_self, fun usable =>
    unusable_user failed (usable _ rfl)⟩) fun stored opened => ?_
  refine serves_refuseIf fun same => ?_
  have known : ehlo = stored := not_not.mp same
  subst known
  refine serves_linkDevice (fun token now => ?_) fun token now row => ?_
  · refine .signIn (decoded.mono ?_) ⟨conn, by simp⟩ (Bool.eq_false_iff.mpr active) opened rfl
    intro e member
    simp [member]
  · exact ⟨conn, _, _, now, row, List.mem_cons_self⟩

theorem serves_refresh {ip : String} {body : TokenRequest} :
    Serves config (.refresh ip body) (fun h t => Outcome config (.refresh ip body) h (.token t)) []
      (refreshHandler config ip body) := by
  unfold refreshHandler
  refine serves_stateConn fun pool conn => ?_
  refine serves_identify rfl (by simp [Action.identifies]) fun found => ?_
  refine serves_okOr fun identity present => ?_
  subst present
  refine serves_stored (fun _ => corrupt_identity List.mem_cons_self fun usable => usable _ rfl)
    fun key keyOpened => ?_
  refine serves_okOr fun tokenBytes tokenHex => ?_
  refine serves_okOr fun ehloBytes ehloHex => ?_
  refine serves_request fun tokenText tokenOpened => ?_
  refine serves_request fun ehlo ehloOpened => ?_
  refine serves_okOr fun old utf8 => ?_
  refine serves_refuseIf fun holds => ?_
  refine serves_okOr fun userId linked => ?_
  refine serves_read rfl rfl fun found => ?_
  refine serves_okOr fun user present => ?_
  subst present
  refine serves_refuseIf fun active => ?_
  refine serves_stored (fun e failed => ⟨conn, _, _, List.mem_cons_self, fun usable =>
    unusable_user failed (usable _ rfl)⟩) fun stored opened => ?_
  refine serves_refuseIf fun same => ?_
  refine serves_newUuid fun token => ?_
  refine serves_identityUpdate (fun now => ?_) fun now row => ?_
  · have known : ehlo = stored := not_not.mp same
    refine .refresh ⟨conn, by simp⟩ (?_ : Opens config _ body.token (asBytes old)) (asBytes_injective (not_not.mp holds)) ⟨linked, conn, user, ehlo, by simp,
      Bool.eq_false_iff.mpr active, known ▸ opened, ehloBytes, key, ehloHex, keyOpened, ehloOpened⟩
      rfl
    rw [Opens, fromUtf8_eq_some utf8]
    exact ⟨tokenBytes, key, tokenHex, keyOpened, tokenOpened⟩
  · exact ⟨conn, _, now, row, List.mem_cons_self⟩

theorem serves_resign {ip : String} {body : TokenRequest} :
    Serves config (.resign ip body) (fun h _ => Outcome config (.resign ip body) h .null) []
      (resignHandler config ip body) := by
  unfold resignHandler
  refine serves_stateConn fun pool conn => ?_
  refine serves_okOr fun tokenBytes tokenHex => ?_
  refine serves_okOr fun token utf8 => ?_
  refine serves_identify rfl (by simp [Action.identifies]) fun found => ?_
  refine serves_okOr fun identity present => ?_
  subst present
  refine serves_stored (fun _ => corrupt_identity List.mem_cons_self fun usable => usable _ rfl)
    fun key keyOpened => ?_
  refine serves_okOr fun ehloBytes ehloHex => ?_
  refine serves_request fun ehlo ehloOpened => ?_
  refine serves_okOr fun userId linked => ?_
  refine serves_read rfl rfl fun found => ?_
  refine serves_okOr fun user present => ?_
  subst present
  refine serves_refuseIf fun active => ?_
  refine serves_stored (fun e failed => ⟨conn, _, _, List.mem_cons_self, fun usable =>
    unusable_user failed (usable _ rfl)⟩) fun stored opened => ?_
  refine serves_refuseIf fun same => ?_
  refine serves_identityUpdate (fun now => ?_) fun now row => ?_
  · have known : ehlo = stored := not_not.mp same
    refine .resign (?_ : Hex.decode body.token = some (asBytes token)) ⟨conn, by simp⟩ ⟨linked, conn, user, ehlo, by simp,
      Bool.eq_false_iff.mpr active, known ▸ opened, ehloBytes, key, ehloHex, keyOpened, ehloOpened⟩
    rw [tokenHex, fromUtf8_eq_some utf8]
  · trivial

/-! ## Sessions -/

theorem serves_validateAuth {headers : HeaderMap} {ip : String} {f : Identity → Handler β}
    (next : ∀ h identity userId, Accepted h headers ip identity userId →
      Serves config req good h (f identity)) :
    Serves config req good [] (validateAuth headers ip >>= f) := by
  unfold validateAuth
  simp only [bind_assoc, pure_bind]
  refine serves_okOr fun token header => ?_
  refine serves_stateConn fun pool conn => ?_
  refine serves_identify rfl (by simp [Action.identifies]) fun found => ?_
  refine serves_okOr fun identity present => ?_
  subst present
  refine serves_refuseIf fun address => ?_
  refine serves_refuseIf fun confirmed => ?_
  refine serves_okOr fun userId linked => ?_
  refine serves_read rfl rfl fun found => ?_
  refine serves_okOr fun user present => ?_
  subst present
  refine serves_refuseIf fun active => ?_
  refine next _ identity userId ⟨⟨token, conn, header, by simp⟩, not_not.mp address, ?_, linked, ?_⟩
  · exact Bool.not_eq_false _ |>.mp confirmed
  · exact ⟨conn, user, by simp, Bool.eq_false_iff.mpr active⟩

theorem serves_verify {headers : HeaderMap} {ip : String} :
    Serves config (.verify headers ip) (fun h _ => Outcome config (.verify headers ip) h .null) []
      (verifyHandler headers ip) := by
  unfold verifyHandler
  exact serves_validateAuth fun _ identity userId accepted => serves_pure ⟨identity, userId, accepted⟩

/-! ## Passwords and groups -/

theorem spec_daysRemaining {validSince : NaiveDateTime} {days : Int} {f : Int → Handler β}
    (next : ∀ now left, Fallible.Spec (Justified config req) (Blame config) good
      (readClock now :: h) (f left)) :
    Fallible.Spec (Justified config req) (Blame config) good h
      ((liftM (daysRemaining validSince days) : Handler Int) >>= f) := by
  unfold daysRemaining
  rw [lift_bind, bind_assoc, Fallible.spec_bind, spec_utcNow]
  exact ⟨.read rfl rfl, fun now => next now _⟩

theorem spec_encryptForClient {stored : String} {identity : Identity} {f : String → Handler β}
    (readable : ∀ e, openPwd stored config = .error e → Corrupt config h)
    (known : ∀ e, openSharedKey identity config = .error e → Corrupt config h)
    (next : ∀ nonce sent, ForClient config identity stored sent →
      Fallible.Spec (Justified config req) (Blame config) good (drewNonce nonce :: h) (f sent)) :
    Fallible.Spec (Justified config req) (Blame config) good h
      ((liftM (encryptForClient stored identity config) : Handler String) >>= f) := by
  unfold encryptForClient
  simp only [lift_bind, lift_pure, lift_attempt, bind_assoc, pure_bind]
  rw [Fallible.spec_bind, spec_attempt]
  refine ⟨fun plain opened => ?_, fun e failed => .stored rfl (readable e failed)⟩
  rw [Fallible.spec_bind, spec_attempt]
  refine ⟨fun key derived => ?_, fun e failed => .stored rfl (known e failed)⟩
  rw [Fallible.spec_bind, spec_encrypt]
  refine ⟨.read rfl rfl, fun nonce => ⟨fun blob sealed => ?_, fun e failed => ?_⟩⟩
  · exact next nonce _ ⟨plain, key, nonce, blob, opened, derived, sealed, rfl⟩
  · exact .sealing rfl (seals_blame failed)

theorem serves_isExpired {validSince : NaiveDateTime} {days : Int} {f : Bool → Handler β}
    (next : ∀ now expired, Serves config req good (readClock now :: h) (f expired)) :
    Serves config req good h ((liftM (isExpired validSince days) : Handler Bool) >>= f) := by
  intro quiet
  unfold isExpired
  rw [lift_bind, bind_assoc]
  exact spec_daysRemaining fun now left => next now _ (quiet.cons rfl)

theorem serves_listEntries {start : History Action.Answer} {identity : Identity} {expired : Bool}
    {rows : List Password} {skip take : Nat} (sub : start ⊆ h)
    (readable : ∀ row ∈ rows, ∀ e, openPwd row.pwd config = .error e → Corrupt config start)
    (known : ∀ e, openSharedKey identity config = .error e → Corrupt config start) :
    Serves config req (fun h entries => start ⊆ h ∧ Entries config identity rows entries) h
      (liftM (listEntries config identity expired rows skip take)) := by
  induction rows generalizing h skip take with
  | nil =>
    unfold listEntries
    exact serves_pure ⟨sub, by simp [Entries]⟩
  | cons row rest ih =>
    cases take with
    | zero =>
      unfold listEntries
      exact serves_pure ⟨sub, by simp [Entries]⟩
    | succ take =>
      have later : ∀ {h' skip take}, start ⊆ h' → Serves config req
          (fun h entries => start ⊆ h ∧ Entries config identity (row :: rest) entries) h'
          (liftM (listEntries config identity expired rest skip take)) := by
        intro h' skip take sub quiet
        refine Fallible.spec_mono (fun h entries ⟨grown, met⟩ => ⟨grown, fun entry member => ?_⟩)
          (ih sub (fun other present => readable other (List.mem_cons_of_mem _ present)) quiet)
        obtain ⟨other, present, sent⟩ := met entry member
        exact ⟨other, List.mem_cons_of_mem _ present, sent⟩
      have add : ∀ {h'} entry, start ⊆ h' → entry.uuid = row.uuid →
          ForClient config identity row.pwd entry.pwd → Serves config req
          (fun h entries => start ⊆ h ∧ Entries config identity (row :: rest) entries) h'
          ((liftM (listEntries config identity expired rest 0 take) : Handler _) >>= fun entries =>
            pure (entry :: entries)) := by
        intro h' entry sub same sent quiet
        rw [Fallible.spec_bind]
        refine Fallible.spec_mono (fun h entries ⟨grown, met⟩ => ⟨grown, ?_⟩) (later sub quiet)
        exact List.forall_mem_cons.mpr ⟨⟨row, List.mem_cons_self, same, sent⟩, met⟩
      unfold listEntries
      rw [lift_bind]
      refine serves_isExpired fun now old => ?_
      have sub := List.subset_cons_of_subset (readClock now) sub
      split
      · cases skip with
        | succ skip => exact later sub
        | zero =>
          simp only [lift_bind]
          intro quiet
          refine spec_encryptForClient
            (fun e failed => (readable row List.mem_cons_self e failed).mono sub)
            (fun e failed => (known e failed).mono sub) fun nonce sent sealed => ?_
          have sub := List.subset_cons_of_subset (drewNonce nonce) sub
          have quiet := quiet.cons (e := drewNonce nonce) rfl
          split
          · simp only [pure_bind, lift_bind]
            exact add _ sub rfl sealed quiet
          · simp only [lift_bind]
            refine spec_daysRemaining fun now left => ?_
            exact add _ (List.subset_cons_of_subset _ sub) rfl sealed (quiet.cons rfl)
      · exact later sub

theorem corrupt_accepted {headers : HeaderMap} {ip userId : String} {identity : Identity}
    {e : AppError} (accepted : Accepted h headers ip identity userId)
    (failed : openSharedKey identity config = .error e) : Corrupt config h := by
  obtain ⟨token, conn, -, member⟩ := accepted.device
  exact corrupt_identity member (fun usable => usable _ rfl) failed

theorem serves_pwdList {headers : HeaderMap} {ip : String} {params : ListParams} :
    Serves config (.pwdList headers ip params)
      (fun h entries => Outcome config (.pwdList headers ip params) h (.passwords entries)) []
      (listHandler config headers ip params) := by
  unfold listHandler
  refine serves_validateAuth fun h identity userId accepted => ?_
  refine serves_okOr fun owner linked => ?_
  refine serves_stateConn fun pool conn => ?_
  refine serves_read rfl rfl fun groups => ?_
  refine serves_read rfl rfl fun rows => ?_
  have grown : h ⊆ answered conn (.passwordFindByGroups _) rows ::
      answered conn (.groupFindByUser owner) groups :: gotConn pool (.ok conn) :: clonedPool pool :: h :=
    fun e member => by simp [member]
  have accepted := accepted.mono grown
  intro quiet
  refine Fallible.spec_mono (fun h' entries ⟨grown, met⟩ => ?_)
    (serves_listEntries (List.Subset.refl _) (fun row member e failed => ?_)
      (fun e => corrupt_accepted accepted) quiet)
  · exact ⟨conn, _, rows, List.mem_cons_self, fun usable =>
      unusable_password failed (usable row member)⟩
  · exact ⟨identity, userId, conn, _, rows, accepted.mono grown, grown List.mem_cons_self, met⟩

theorem serves_decryptFromClient {field : String} {identity : Identity} {f : Bytes → Handler β}
    (known : ∀ e, openSharedKey identity config = .error e → Corrupt config h)
    (next : ∀ plain, Opens config identity field plain → Serves config req good h (f plain)) :
    Serves config req good h ((liftM (decryptFromClient field identity config) : Handler Bytes) >>= f) := by
  unfold decryptFromClient
  intro quiet
  rw [lift_bind, lift_okOr, bind_assoc]
  refine serves_okOr (fun blob decoded => ?_) quiet
  simp only [lift_bind, lift_attempt, bind_assoc]
  refine serves_stored known fun key derived => ?_
  exact serves_request fun plain opened => next plain ⟨blob, key, decoded, derived, opened⟩

theorem serves_pwdCreate {headers : HeaderMap} {ip : String} {body : CreatePasswordRequest} :
    Serves config (.pwdCreate headers ip body)
      (fun h entry => Outcome config (.pwdCreate headers ip body) h (.password entry)) []
      (createHandler config headers ip body) := by
  unfold createHandler
  refine serves_request fun _ lengths => ?_
  refine serves_validateAuth fun h identity userId accepted => ?_
  refine serves_okOr fun owner linked => ?_
  cases linked.symm.trans accepted.linked
  refine serves_stateConn fun pool conn => ?_
  have grown : h ⊆ gotConn pool (.ok conn) :: clonedPool pool :: h := fun e member => by simp [member]
  have accepted := accepted.mono grown
  refine serves_decryptFromClient (fun e => corrupt_accepted accepted) fun plain opened => ?_
  refine serves_encrypt fun nonce blob sealed => ?_
  refine serves_read rfl rfl fun found => ?_
  refine serves_okOr fun group present => ?_
  subst present
  refine serves_refuseIf fun owned => ?_
  refine serves_newUuid fun uuid => ?_
  refine serves_utcNow fun now => ?_
  refine serves_write (q := .passwordCreate (createRow body uuid blob now)) rfl ?_ fun row => ?_
  · exact .pwdCreate (accepted.mono fun e member => by simp_all) opened ⟨nonce, sealed⟩
      ⟨conn, by simp⟩ (not_not.mp owned) rfl (by simp)
  · refine spec_encryptForClient (fun e failed => ⟨conn, _, row, List.mem_cons_self, fun usable =>
      unusable_password failed usable⟩) (fun e => corrupt_accepted (accepted.mono fun e member => by
        simp_all)) fun nonce sent forClient => ?_
    refine spec_daysRemaining fun now left => ?_
    exact ⟨identity, userId, conn, _, row, accepted.mono fun e member => by simp_all, by simp, rfl,
      forClient⟩

theorem serves_pwdUpdate {headers : HeaderMap} {ip : String} {uuid : Uuid}
    {body : UpdatePasswordRequest} :
    Serves config (.pwdUpdate headers ip uuid body)
      (fun h _ => Outcome config (.pwdUpdate headers ip uuid body) h .null) []
      (updateHandler config headers ip uuid body) := by
  unfold updateHandler
  refine serves_request fun _ lengths => ?_
  refine serves_validateAuth fun h identity userId accepted => ?_
  refine serves_okOr fun owner linked => ?_
  cases linked.symm.trans accepted.linked
  refine serves_stateConn fun pool conn => ?_
  refine serves_read rfl rfl fun found => ?_
  refine serves_okOr fun existing present => ?_
  subst present
  refine serves_read rfl rfl fun found => ?_
  refine serves_okOr fun group present => ?_
  subst present
  refine serves_refuseIf fun owned => ?_
  refine serves_read rfl rfl fun found => ?_
  refine serves_okOr fun targetGroup present => ?_
  subst present
  refine serves_refuseIf fun targetOwned => ?_
  refine serves_decryptFromClient (fun e => corrupt_accepted (accepted.mono fun e member => by
    simp [member])) fun plain opened => ?_
  refine serves_encrypt fun nonce blob sealed => ?_
  refine serves_passwordUpdate (fun now => ?_) fun now row => ?_
  · exact .pwdUpdate (accepted.mono fun e member => by simp [member])
      (show ∃ conn, answered conn (.passwordFindByUuid uuid.toString) (some existing) ∈ _ from
        ⟨conn, by simp⟩)
      ⟨conn, by simp⟩ (not_not.mp owned) ⟨conn, by simp⟩ (not_not.mp targetOwned) opened
      ⟨nonce, sealed⟩ (by simp)
  · exact ⟨conn, _, now, row, List.mem_cons_self⟩

theorem serves_pwdGet {headers : HeaderMap} {ip : String} {uuid : Uuid} :
    Serves config (.pwdGet headers ip uuid)
      (fun h detail => Outcome config (.pwdGet headers ip uuid) h (.detail detail)) []
      (getHandler config headers ip uuid) := by
  unfold getHandler
  refine serves_validateAuth fun h identity userId accepted => ?_
  refine serves_okOr fun owner linked => ?_
  refine serves_stateConn fun pool conn => ?_
  refine serves_read rfl rfl fun found => ?_
  refine serves_okOr fun row present => ?_
  subst present
  refine serves_read rfl rfl fun found => ?_
  refine serves_okOr fun group present => ?_
  refine serves_refuseIf fun owned => ?_
  intro quiet
  refine spec_encryptForClient (fun e failed => ⟨conn, .passwordFindByUuid uuid.toString, some row,
    by simp, fun usable => unusable_password failed (usable row rfl)⟩)
    (fun e => corrupt_accepted (accepted.mono fun e member => by simp [member]))
    fun nonce sent forClient => ?_
  refine spec_daysRemaining fun now left => ?_
  exact ⟨identity, userId, conn, row, accepted.mono fun e member => by simp [member], by simp, rfl,
    rfl, rfl, forClient⟩

theorem serves_groupCreate {headers : HeaderMap} {ip : String} {body : CreateGroupRequest} :
    Serves config (.groupCreate headers ip body) (fun _ _ => True) []
      (groupCreateHandler headers ip body) := by
  unfold groupCreateHandler
  refine serves_request fun _ lengths => ?_
  refine serves_validateAuth fun h identity userId accepted => ?_
  refine serves_okOr fun owner linked => ?_
  cases linked.symm.trans accepted.linked
  refine serves_stateConn fun pool conn => ?_
  refine serves_newUuid fun uuid => ?_
  refine serves_write (q := .groupCreate ⟨uuid.toString, userId, body.name, body.extra.getD "{}"⟩) rfl
    ?_ fun row => trivial
  exact .groupCreate (accepted.mono fun e member => by simp [member]) rfl

theorem serves_groupList {headers : HeaderMap} {ip : String} :
    Serves config (.groupList headers ip) (fun _ _ => True) [] (groupListHandler headers ip) := by
  unfold groupListHandler
  refine serves_validateAuth fun h identity userId accepted => ?_
  refine serves_okOr fun owner linked => ?_
  refine serves_stateConn fun pool conn => ?_
  exact serves_read rfl rfl fun groups => serves_pure trivial

/-! ## Administration -/

theorem serves_setConfirm {uuid : String} {confirmed : Bool}
    (write : ∀ h conn now, Write config req h
      (.effect (.sql conn (.identityUpdate uuid (confirmChanges confirmed) now)))) :
    Serves config req (fun _ _ => True) h (setConfirm uuid confirmed) := by
  unfold setConfirm
  refine serves_stateConn fun pool conn => ?_
  refine serves_read rfl rfl fun found => ?_
  refine serves_okOr fun identity present => ?_
  exact serves_identityUpdate (fun now => write _ conn now) fun _ _ => trivial

theorem serves_adminApprove {headers : HeaderMap} {addr : IpAddr} {uuid : Uuid} :
    Serves config (.adminApprove headers addr uuid) (fun _ _ => True) []
      (approveHandler config headers addr uuid) := by
  unfold approveHandler
  exact serves_request fun _ passed => serves_setConfirm fun _ _ _ => .approve passed

theorem serves_adminToggleIdentity {headers : HeaderMap} {addr : IpAddr} {uuid : Uuid}
    {action : String} :
    Serves config (.adminToggleIdentity headers addr uuid action) (fun _ _ => True) []
      (toggleIdentity config headers addr uuid action) := by
  unfold toggleIdentity
  refine serves_request fun _ passed => ?_
  split
  · exact serves_setConfirm fun _ _ _ => @Write.toggleIdentity _ _ _ _ _ _ _ true _ passed
  · exact serves_setConfirm fun _ _ _ => @Write.toggleIdentity _ _ _ _ _ _ _ false _ passed
  · exact serves_refuse

theorem serves_adminDelete {headers : HeaderMap} {addr : IpAddr} {uuid : Uuid} :
    Serves config (.adminDelete headers addr uuid) (fun _ _ => True) []
      (deleteIdentity config headers addr uuid) := by
  unfold deleteIdentity
  refine serves_request fun _ passed => ?_
  refine serves_stateConn fun pool conn => ?_
  refine serves_read rfl rfl fun found => ?_
  refine serves_okOr fun identity present => ?_
  exact serves_write rfl (.deleteIdentity passed) fun _ => trivial

theorem serves_adminToggleUser {headers : HeaderMap} {addr : IpAddr} {uuid : Uuid}
    {action : String} :
    Serves config (.adminToggleUser headers addr uuid action) (fun _ _ => True) []
      (toggleUser config headers addr uuid action) := by
  have toggle : ∀ isDeleted, action = deleteWord isDeleted → Admin config headers addr → Serves config
      (.adminToggleUser headers addr uuid action) (fun _ _ => True) [] (do
        let conn ← stateConn
        let _ ← okOr (← User.findByUuid conn uuid.toString) (.notFound "user not found")
        let _ ← User.update conn uuid.toString { isDeleted := some isDeleted, extra := none }) := by
    rintro isDeleted rfl passed
    refine serves_stateConn fun pool conn => ?_
    refine serves_read rfl rfl fun found => ?_
    refine serves_okOr fun user present => ?_
    exact serves_userUpdate (fun now => .toggleUser passed) fun _ _ => trivial
  unfold toggleUser
  refine serves_request fun _ passed => ?_
  split
  · exact toggle true rfl passed
  · exact toggle false rfl passed
  · exact serves_refuse

theorem serves_adminPending {headers : HeaderMap} {addr : IpAddr} :
    Serves config (.adminPending headers addr) (fun _ _ => True) []
      (pendingHandler config headers addr) := by
  unfold pendingHandler
  refine serves_request fun _ passed => ?_
  refine serves_stateConn fun pool conn => ?_
  exact serves_read rfl rfl fun found => serves_pure trivial

theorem serves_adminIdentities {headers : HeaderMap} {addr : IpAddr} :
    Serves config (.adminIdentities headers addr) (fun _ _ => True) []
      (listIdentities config headers addr) := by
  unfold listIdentities
  refine serves_request fun _ passed => ?_
  refine serves_stateConn fun pool conn => ?_
  exact serves_read rfl rfl fun found => serves_pure trivial

theorem serves_adminUsers {headers : HeaderMap} {addr : IpAddr} :
    Serves config (.adminUsers headers addr) (fun _ _ => True) []
      (listUsers config headers addr) := by
  unfold listUsers
  refine serves_request fun _ passed => ?_
  refine serves_stateConn fun pool conn => ?_
  refine serves_read rfl rfl fun users => ?_
  exact serves_read rfl rfl fun identities => serves_pure trivial

variable [Archive]

theorem serves_adminExport {headers : HeaderMap} {addr : IpAddr} :
    Serves config (.adminExport headers addr) (fun _ _ => True) []
      (liftM (exportHandler config headers addr)) := by
  intro quiet
  refine Prog.spec_embed Quiet [] (fun _ _ _ quiet => quiet.cons rfl)
    (fun _ _ _ => .read rfl rfl) ?_ quiet
  refine Prog.spec_mono (fun _ _ allowed => allowed) (fun _ r met h quiet => ?_)
    (plain_exportHandler config [])
  cases r with
  | ok content => trivial
  | error f => exact .refused met quiet.unwritten

/-! ## Every request -/

/-- Every handler keeps to its specification from the start. -/
theorem serve_spec (config : Config) (req : Request) :
    Prog.Spec (Justified config req) (Settled config req) [] (serve config req).run := by
  have start : Quiet [] := by simp [Quiet]
  suffices spec : Serves config req (Outcome config req) [] (serve config req) from
    Prog.spec_mono (fun _ _ allowed => allowed)
      (fun h r met => by cases r <;> exact met) (spec start)
  cases req with
  | greet ip body => exact serves_map serves_greet
  | signUp ip body => exact serves_map serves_signUp
  | signIn ip body => exact serves_map serves_signIn
  | refresh ip body => exact serves_map serves_refresh
  | resign ip body => exact serves_map serves_resign
  | verify headers ip => exact serves_map serves_verify
  | pwdList headers ip params => exact serves_map serves_pwdList
  | pwdCreate headers ip body => exact serves_map serves_pwdCreate
  | pwdUpdate headers ip uuid body => exact serves_map serves_pwdUpdate
  | pwdGet headers ip uuid => exact serves_map serves_pwdGet
  | groupCreate headers ip body => exact serves_map serves_groupCreate
  | groupList headers ip => exact serves_map serves_groupList
  | adminPending headers addr => exact serves_map serves_adminPending
  | adminApprove headers addr uuid => exact serves_map serves_adminApprove
  | adminIdentities headers addr => exact serves_map serves_adminIdentities
  | adminDelete headers addr uuid => exact serves_map serves_adminDelete
  | adminToggleIdentity headers addr uuid action => exact serves_map serves_adminToggleIdentity
  | adminUsers headers addr => exact serves_map serves_adminUsers
  | adminToggleUser headers addr uuid action => exact serves_map serves_adminToggleUser
  | adminExport headers addr => exact serves_map serves_adminExport

end PasswordManager
