import PasswordManager.Server.Conduct

/-!
# Rules for handlers

A handler reads until it has checked everything and then writes once. `Serves` is the
judgement for the part before the write; each rule takes one step of the source off the
front of the handler.
-/

namespace PasswordManager
open Interaction

variable {config : Config} {req : Request} {h h' : History Action.Answer} {α β : Type}

/-! ## Histories -/

theorem wrote_isWrite {e : Exchange Action.Answer} (changed : wrote e = true) :
    e.action.isWrite = true := by
  unfold wrote at changed
  split at changed
  · exact changed
  · rfl
  · cases changed

theorem Quiet.unwritten (quiet : Quiet h) : Unwritten h := by
  intro e member
  refine Bool.eq_false_iff.mpr fun changed => ?_
  cases (quiet e member).symm.trans (wrote_isWrite changed)

theorem Quiet.cons {e : Exchange Action.Answer} (read : e.action.isWrite = false)
    (quiet : Quiet h) : Quiet (e :: h) := by
  intro other member
  rcases List.mem_cons.mp member with rfl | member
  · exact read
  · exact quiet other member

theorem Unwritten.cons {e : Exchange Action.Answer} (unchanged : wrote e = false)
    (unwritten : Unwritten h) : Unwritten (e :: h) := by
  intro other member
  rcases List.mem_cons.mp member with rfl | member
  · exact unchanged
  · exact unwritten other member

variable [Crypto]

theorem Corrupt.mono (sub : h ⊆ h') (corrupt : Corrupt config h) : Corrupt config h' := by
  obtain ⟨conn, q, a, member, unreadable⟩ := corrupt
  exact ⟨conn, q, a, sub member, unreadable⟩

theorem Accepted.mono {headers : HeaderMap} {ip userId : String} {identity : Identity}
    (sub : h ⊆ h') (accepted : Accepted h headers ip identity userId) :
    Accepted h' headers ip identity userId where
  device := by
    obtain ⟨token, conn, header, member⟩ := accepted.device
    exact ⟨token, conn, header, sub member⟩
  address := accepted.address
  confirmed := accepted.confirmed
  linked := accepted.linked
  active := by
    obtain ⟨conn, user, member, active⟩ := accepted.active
    exact ⟨conn, user, sub member, active⟩

theorem Decoded.mono {ip name : String} {body : SignRequest} {identity : Identity} {ehlo : Bytes}
    (sub : h ⊆ h') (decoded : Decoded config h ip body identity name ehlo) :
    Decoded config h' ip body identity name ehlo where
  device := decoded.device.imp fun _ member => sub member
  name := decoded.name
  ehlo := decoded.ehlo

/-! ## Reading rows back -/

theorem openSharedKey_usable {identity : Identity} (usable : identity.Usable config) :
    ∃ key, openSharedKey identity config = .ok key := by
  obtain ⟨scalar, opened, -, sized⟩ := usable
  refine ⟨Crypto.x25519 scalar ⟨identity.clientPublicKey, sized⟩, ?_⟩
  unfold openSharedKey
  rw [opened]
  exact deriveSharedKey_sized scalar ⟨identity.clientPublicKey, sized⟩

theorem unusable_identity {identity : Identity} {e : AppError}
    (failed : openSharedKey identity config = .error e) : ¬identity.Usable config := by
  intro usable
  obtain ⟨key, opened⟩ := openSharedKey_usable usable
  cases failed.symm.trans opened

theorem unusable_user {user : User} {e : AppError} (failed : openEhlo user config = .error e) :
    ¬user.Usable config := by
  rintro ⟨ehlo, opened⟩
  cases failed.symm.trans opened

theorem unusable_password {row : Password} {e : AppError}
    (failed : openPwd row.pwd config = .error e) : ¬row.Usable config := by
  rintro ⟨plain, opened⟩
  cases failed.symm.trans opened

/-! ## Steps before the write -/

/-- From a history without writes, the handler keeps to `Justified` and `Blame`. -/
def Serves (config : Config) (req : Request) (good : History Action.Answer → α → Prop)
    (h : History Action.Answer) (p : Handler α) : Prop :=
  Quiet h → Fallible.Spec (Justified config req) (Blame config) good h p

section
variable {good : History Action.Answer → β → Prop}

theorem Unwritten.request {e : AppError} (unwritten : Unwritten h) : Blame config h ⟨e, .request⟩ :=
  .refused (.inl rfl) unwritten

theorem Unwritten.backend {e : AppError} (unwritten : Unwritten h) : Blame config h ⟨e, .backend⟩ :=
  .refused (.inr rfl) unwritten

theorem Justified.read {x : Action} (read : x.isWrite = false) (plain : x.identifies = false) :
    Justified config req h x where
  once identifies := by rw [plain] at identifies; cases identifies
  write writes := by rw [read] at writes; cases writes

theorem serves_pure {v : β} (met : good h v) : Serves config req good h (pure v) :=
  fun _ => met

theorem serves_map {p : Handler α} {f : α → β}
    (spec : Serves config req (fun h v => good h (f v)) h p) :
    Serves config req good h (f <$> p) :=
  fun quiet => Fallible.spec_map.mpr (spec quiet)

theorem serves_okOr {value : Option α} {error : AppError} {f : α → Handler β}
    (next : ∀ v, value = some v → Serves config req good h (f v)) :
    Serves config req good h (okOr value error >>= f) := by
  intro quiet
  rw [Fallible.spec_bind, spec_okOr]
  exact ⟨fun v found => next v found quiet, fun _ => quiet.unwritten.request⟩

theorem serves_refuseIf {condition : Prop} [Decidable condition] {error : AppError}
    {f : Unit → Handler β} (next : ¬condition → Serves config req good h (f ())) :
    Serves config req good h (refuseIf condition error >>= f) := by
  intro quiet
  rw [Fallible.spec_bind, spec_refuseIf]
  exact ⟨fun passed => next passed quiet, fun _ => quiet.unwritten.request⟩

theorem serves_refuse {error : AppError} : Serves config req good h (fail .request error) :=
  fun quiet => quiet.unwritten.request

theorem serves_request {r : Except AppError α} {f : α → Handler β}
    (next : ∀ v, r = .ok v → Serves config req good h (f v)) :
    Serves config req good h (attempt .request r >>= f) := by
  intro quiet
  rw [Fallible.spec_bind, spec_attempt]
  exact ⟨fun v passed => next v passed quiet, fun _ _ => quiet.unwritten.request⟩

theorem serves_stored {r : Except AppError α} {f : α → Handler β}
    (corrupt : ∀ e, r = .error e → Corrupt config h)
    (next : ∀ v, r = .ok v → Serves config req good h (f v)) :
    Serves config req good h (attempt .stored r >>= f) := by
  intro quiet
  rw [Fallible.spec_bind, spec_attempt]
  exact ⟨fun v opened => next v opened quiet, fun e failed => .stored rfl (corrupt e failed)⟩

theorem serves_stateConn {f : Conn → Handler β}
    (next : ∀ pool conn, Serves config req good
      (gotConn pool (.ok conn) :: clonedPool pool :: h) (f conn)) :
    Serves config req good h ((liftM stateConn : Handler Conn) >>= f) := by
  intro quiet
  rw [Fallible.spec_bind, spec_stateConn]
  refine ⟨.read rfl rfl, fun pool => ⟨.read rfl rfl, fun conn => ?_, fun m => ?_⟩⟩
  · exact next pool conn ((quiet.cons rfl).cons rfl)
  · exact (Quiet.unwritten ((quiet.cons rfl).cons rfl)).backend

theorem serves_read {conn : Conn} {q : Query} {f : q.Answer → Handler β}
    (read : q.isWrite = false) (plain : (Action.effect (.sql conn q)).identifies = false)
    (next : ∀ a, Serves config req good (answered conn q a :: h) (f a)) :
    Serves config req good h ((liftM (sql conn q) : Handler q.Answer) >>= f) := by
  intro quiet
  rw [Fallible.spec_bind, spec_sql]
  exact ⟨.read read plain, fun a => next a (quiet.cons read),
    fun e => (Quiet.unwritten (quiet.cons (e := refused conn q e) read)).backend⟩

/-- The statement that finds the device, which no earlier statement has looked for. -/
theorem serves_identify {conn : Conn} {q : Query} {f : q.Answer → Handler β}
    (read : q.isWrite = false) (first : ∀ e ∈ h, e.action.identifies = false)
    (next : ∀ a, Serves config req good (answered conn q a :: h) (f a)) :
    Serves config req good h ((liftM (sql conn q) : Handler q.Answer) >>= f) := by
  intro quiet
  rw [Fallible.spec_bind, spec_sql]
  refine ⟨⟨fun _ => first, fun writes => ?_⟩, fun a => next a (quiet.cons read),
    fun e => (Quiet.unwritten (quiet.cons (e := refused conn q e) read)).backend⟩
  cases read.symm.trans writes

theorem serves_newUuid {f : String → Handler β}
    (next : ∀ u, Serves config req good (drewUuid u :: h) (f u.toString)) :
    Serves config req good h ((liftM newUuid : Handler String) >>= f) := by
  intro quiet
  rw [Fallible.spec_bind, spec_newUuid]
  exact ⟨.read rfl rfl, fun u => next u (quiet.cons rfl)⟩

theorem serves_utcNow {f : NaiveDateTime → Handler β}
    (next : ∀ t, Serves config req good (readClock t :: h) (f t)) :
    Serves config req good h ((liftM utcNow : Handler NaiveDateTime) >>= f) := by
  intro quiet
  rw [Fallible.spec_bind, spec_utcNow]
  exact ⟨.read rfl rfl, fun t => next t (quiet.cons rfl)⟩

theorem serves_generateIdentityKeys {f : IdentityKeys → Handler β}
    (next : ∀ r, Serves config req good (drewRandom r :: h) (f (identityKeys r))) :
    Serves config req good h ((liftM generateIdentityKeys : Handler IdentityKeys) >>= f) := by
  intro quiet
  rw [Fallible.spec_bind, spec_generateIdentityKeys]
  exact ⟨.read rfl rfl, fun r => next r (quiet.cons rfl)⟩

theorem seals_blame {nonce : BytesN 12} {data : Bytes} {key : BytesN 32} {e : AppError}
    (failed : sealWith nonce data key = .error e) : ¬Seals := by
  intro seals
  obtain ⟨blob, sealed⟩ := sealWith_isOk seals nonce data key
  cases failed.symm.trans sealed

theorem serves_encrypt {data : Bytes} {key : BytesN 32} {f : Bytes → Handler β}
    (next : ∀ nonce blob, sealWith nonce data key = .ok blob →
      Serves config req good (drewNonce nonce :: h) (f blob)) :
    Serves config req good h ((liftM (encryptWithSharedKey data key) : Handler Bytes) >>= f) := by
  intro quiet
  rw [Fallible.spec_bind, spec_encrypt]
  exact ⟨.read rfl rfl, fun nonce => ⟨fun blob sealed => next nonce blob sealed (quiet.cons rfl),
    fun _ failed => .sealing rfl (seals_blame failed)⟩⟩

/-! ## The write -/

theorem Quiet.justified {x : Action} (quiet : Quiet h) (plain : x.identifies = false)
    (write : Write config req h x) : Justified config req h x where
  once identifies := by rw [plain] at identifies; cases identifies
  write _ := ⟨quiet, write⟩

theorem serves_write {conn : Conn} {q : Query} {f : q.Answer → Handler β}
    (plain : (Action.effect (.sql conn q)).identifies = false)
    (write : Write config req h (.effect (.sql conn q)))
    (next : ∀ a, Fallible.Spec (Justified config req) (Blame config) good (answered conn q a :: h)
      (f a)) :
    Serves config req good h ((liftM (sql conn q) : Handler q.Answer) >>= f) := by
  intro quiet
  rw [Fallible.spec_bind, spec_sql]
  exact ⟨quiet.justified plain write, next, fun e => (Unwritten.cons rfl quiet.unwritten).backend⟩

theorem serves_identityUpdate {conn : Conn} {uuid : String} {changes : UpdateIdentity}
    {f : Identity → Handler β}
    (write : ∀ now, Write config req (readClock now :: h)
      (.effect (.sql conn (.identityUpdate uuid changes now))))
    (next : ∀ now row, Fallible.Spec (Justified config req) (Blame config) good
      (answered conn (.identityUpdate uuid changes now) row :: readClock now :: h) (f row)) :
    Serves config req good h
      ((liftM (Identity.update conn uuid changes) : Handler Identity) >>= f) := by
  intro quiet
  rw [Fallible.spec_bind, spec_identityUpdate]
  refine ⟨.read rfl rfl, fun now => ⟨(quiet.cons rfl).justified rfl (write now), next now, fun e => ?_⟩⟩
  exact (Unwritten.cons rfl (Quiet.unwritten (quiet.cons rfl))).backend

theorem serves_userUpdate {conn : Conn} {uuid : String} {changes : UpdateUser}
    {f : User → Handler β}
    (write : ∀ now, Write config req (readClock now :: h)
      (.effect (.sql conn (.userUpdate uuid changes now))))
    (next : ∀ now row, Fallible.Spec (Justified config req) (Blame config) good
      (answered conn (.userUpdate uuid changes now) row :: readClock now :: h) (f row)) :
    Serves config req good h ((liftM (User.update conn uuid changes) : Handler User) >>= f) := by
  intro quiet
  rw [Fallible.spec_bind, spec_userUpdate]
  refine ⟨.read rfl rfl, fun now => ⟨(quiet.cons rfl).justified rfl (write now), next now, fun e => ?_⟩⟩
  exact (Unwritten.cons rfl (Quiet.unwritten (quiet.cons rfl))).backend

theorem serves_passwordUpdate {conn : Conn} {uuid : String} {changes : UpdatePassword}
    {f : Password → Handler β}
    (write : ∀ now, Write config req (readClock now :: h)
      (.effect (.sql conn (.passwordUpdate uuid changes now))))
    (next : ∀ now row, Fallible.Spec (Justified config req) (Blame config) good
      (answered conn (.passwordUpdate uuid changes now) row :: readClock now :: h) (f row)) :
    Serves config req good h
      ((liftM (Password.update conn uuid changes) : Handler Password) >>= f) := by
  intro quiet
  rw [Fallible.spec_bind, spec_passwordUpdate]
  refine ⟨.read rfl rfl, fun now => ⟨(quiet.cons rfl).justified rfl (write now), next now, fun e => ?_⟩⟩
  exact (Unwritten.cons rfl (Quiet.unwritten (quiet.cons rfl))).backend

end

end PasswordManager
