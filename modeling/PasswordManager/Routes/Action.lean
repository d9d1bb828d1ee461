import PasswordManager.Routes.Effect

/-!
# Actions of the handlers

A handler takes connections from the pool, issues effects one by one, runs the sign-up
transaction as one step, and (for export and import) works on files.
-/

namespace PasswordManager
open Interaction

/-- The operations on files and on the shared pool. -/
inductive FileAction where
  | now
  | clonePool
  | poolGet (pool : DbPool)
  | openFile (path : String)
  | readToEnd
  | tempdir
  | unpack (archive : Bytes)
  | readTemp (name : String)
  | write (path : String) (content : Bytes)
  | establish (path : String)
  | lockPool
  | rename (source target : String)
  | initPool (databaseUrl : String) (size : Nat)
  | unlockPool
  | runPendingMigrations (conn : Conn)

/-- A failing operation reports its message. -/
@[reducible] def FileAction.Answer : FileAction → Type
  | now => NaiveDateTime
  | clonePool => DbPool
  | poolGet _ => Except String Conn
  | readToEnd | readTemp _ => Except String Bytes
  | lockPool | unlockPool => Unit
  | _ => Except String Unit

inductive Action where
  | effect (x : Effect)
  | transaction (conn : Conn) (t : SignUpTransaction)
  | file (x : FileAction)

@[reducible] def Action.Answer : Action → Type
  | effect x => x.Answer
  | transaction _ _ => Except Failure (String × String)
  | file x => x.Answer

abbrev Files := Fallible FileAction.Answer Failure

abbrev Handler := Fallible Action.Answer Failure

instance : MonadLift Domain Handler where
  monadLift := Fallible.embed .effect fun _ a => a

instance : MonadLift Files Handler where
  monadLift := Fallible.embed .file fun _ a => a

def file (x : FileAction) : Files x.Answer := ExceptT.lift (Prog.perform x)

/-- An operation whose failure is reported as `error message`. -/
def fileOr {α : Type} (error : String → AppError) (x : Files (Except String α)) : Files α := do
  match ← x with
  | .ok v => pure v
  | .error message => fail .backend (error message)

/-- `pool.get()?` -/
def poolGet (pool : DbPool) : Files Conn := fileOr .pool (file (.poolGet pool))

/-- `AppState::conn` followed by `?`. -/
def stateConn : Files Conn := do
  let pool ← file .clonePool
  poolGet pool

def act (x : Action) : Handler x.Answer := ExceptT.lift (Prog.perform x)

/-- `conn.transaction(...)` followed by `?`. -/
def transaction (conn : Conn) (t : SignUpTransaction) : Handler (String × String) := do
  match ← (act (.transaction conn t) : Handler (Except Failure (String × String))) with
  | .ok done => pure done
  | .error e => throw e

/-! ## Exchanges -/

/-- A statement that was carried out, with its result. -/
abbrev answered (conn : Conn) (q : Query) (a : q.Answer) : Exchange Action.Answer :=
  ⟨.effect (.sql conn q), Except.ok a⟩

/-- A statement that failed. -/
abbrev refused (conn : Conn) (q : Query) (e : DbError) : Exchange Action.Answer :=
  ⟨.effect (.sql conn q), Except.error e⟩

abbrev drewUuid (u : Uuid) : Exchange Action.Answer := ⟨.effect .uuid, u⟩

abbrev drewRandom (r : BytesN 32) : Exchange Action.Answer := ⟨.effect .random, r⟩

abbrev drewNonce (n : BytesN 12) : Exchange Action.Answer := ⟨.effect .nonce, n⟩

abbrev readClock (t : NaiveDateTime) : Exchange Action.Answer := ⟨.effect .now, t⟩

/-- A committed transaction, with the new user's uuid and the token. -/
abbrev committed (conn : Conn) (t : SignUpTransaction) (done : String × String) :
    Exchange Action.Answer := ⟨.transaction conn t, Except.ok done⟩

abbrev rolledBack (conn : Conn) (t : SignUpTransaction) (e : Failure) : Exchange Action.Answer :=
  ⟨.transaction conn t, Except.error e⟩

abbrev clonedPool (pool : DbPool) : Exchange Action.Answer := ⟨.file .clonePool, pool⟩

abbrev gotConn (pool : DbPool) (r : Except String Conn) : Exchange Action.Answer :=
  ⟨.file (.poolGet pool), r⟩

/-- An action that can change a row. -/
def Action.isWrite : Action → Bool
  | effect (.sql _ q) => q.isWrite
  | transaction _ _ => true
  | _ => false

/-- A statement by which a request finds out which device it comes from. -/
def Action.identifies : Action → Bool
  | effect (.sql _ (.identityFindByIp _)) | effect (.sql _ (.identityFindByDeviceToken _)) => true
  | _ => false

/-- An action that changed the database. -/
def wrote : Exchange Action.Answer → Bool
  | ⟨.effect (.sql _ q), (Except.ok _ : Except DbError q.Answer)⟩ => q.isWrite
  | ⟨.transaction _ _, (Except.ok _ : Except Failure (String × String))⟩ => true
  | _ => false

/-! ## Specifications of the steps -/

section
variable {may : History Action.Answer → Action → Prop}
variable {bad : History Action.Answer → Failure → Prop} {h : History Action.Answer}

/-- The file operations in a handler's history. -/
def files (h : History Action.Answer) : History FileAction.Answer :=
  h.filterMap fun
    | ⟨.file x, a⟩ => some ⟨x, a⟩
    | _ => none

theorem spec_files {α : Type} {may : History FileAction.Answer → FileAction → Prop}
    {may' : History Action.Answer → Action → Prop} {bad : History FileAction.Answer → Failure → Prop}
    {good : History FileAction.Answer → α → Prop} {h : History Action.Answer} {p : Files α}
    (allowed : ∀ h x, may (files h) x → may' h (.file x)) (spec : Fallible.Spec may bad good (files h) p) :
    Fallible.Spec may' (fun h e => bad (files h) e) (fun h v => good (files h) v) h
      (liftM p : Handler α) := by
  let related : History FileAction.Answer → History Action.Answer → Prop := fun h h' => files h' = h
  have start : related (files h) h := rfl
  refine Prog.spec_embed_rel ?_ ?_ ?_ start spec
  · rintro _ h' x a rfl
    rfl
  · rintro _ h' x rfl met
    exact allowed h' x met
  · rintro _ h' v rfl met
    exact met

theorem lift_bind {α β : Type} (p : Domain α) (f : α → Domain β) :
    (liftM (p >>= f) : Handler β) = liftM p >>= fun v => liftM (f v) :=
  Fallible.embed_bind p f

@[simp] theorem lift_pure {α : Type} (v : α) : (liftM (pure v : Domain α) : Handler α) = pure v := rfl

theorem lift_attempt {α : Type} (origin : Origin) (r : Except AppError α) :
    (liftM (attempt origin r : Domain α) : Handler α) = attempt origin r := by
  cases r <;> rfl

theorem lift_okOr {α : Type} (value : Option α) (error : AppError) :
    (liftM (okOr value error : Domain α) : Handler α) = okOr value error := by
  cases value <;> rfl

theorem spec_effect {x : Effect} {good : History Action.Answer → x.Answer → Prop} :
    Fallible.Spec may bad good h (liftM (effect x) : Handler x.Answer) ↔
      may h (.effect x) ∧ ∀ a : x.Answer, good (⟨.effect x, a⟩ :: h) a := Iff.rfl

theorem spec_query {conn : Conn} {q : Query}
    {good : History Action.Answer → Except DbError q.Answer → Prop} :
    Fallible.Spec may bad good h (liftM (query conn q) : Handler (Except DbError q.Answer)) ↔
      may h (.effect (.sql conn q)) ∧ (∀ a, good (answered conn q a :: h) (.ok a)) ∧
        ∀ e, good (refused conn q e :: h) (.error e) := by
  refine spec_effect.trans (and_congr_right fun _ => ⟨fun met => ⟨fun a => met _, fun e => met _⟩, ?_⟩)
  rintro ⟨ok, error⟩ (e | a)
  · exact error e
  · exact ok a

theorem spec_sql {conn : Conn} {q : Query} {good : History Action.Answer → q.Answer → Prop} :
    Fallible.Spec may bad good h (liftM (sql conn q) : Handler q.Answer) ↔
      may h (.effect (.sql conn q)) ∧ (∀ a, good (answered conn q a :: h) a) ∧
        ∀ e, bad (refused conn q e :: h) ⟨.database e, .backend⟩ := by
  rw [sql, lift_bind, Fallible.spec_bind, spec_query]
  rfl

/-- A statement of a handler, and what it does with the answer. -/
theorem spec_statement {β : Type} {bad : History Action.Answer → Failure → Prop}
    {good : History Action.Answer → β → Prop} {h : History Action.Answer} {conn : Conn} {q : Query}
    {f : q.Answer → Handler β} (failed : ∀ e, bad (refused conn q e :: h) ⟨.database e, .backend⟩)
    (next : ∀ a, Fallible.Spec (fun _ _ => True) bad good (answered conn q a :: h) (f a)) :
    Fallible.Spec (fun _ _ => True) bad good h
      ((liftM (sql conn q) : Handler q.Answer) >>= f) :=
  Fallible.spec_bind.mpr (spec_sql.mpr ⟨trivial, next, failed⟩)

/-- `spec_statement` of a handler that looks at the error itself. -/
theorem spec_inspected {β : Type} {bad : History Action.Answer → Failure → Prop}
    {good : History Action.Answer → β → Prop} {h : History Action.Answer} {conn : Conn} {q : Query}
    {f : Except DbError q.Answer → Handler β}
    (failed : ∀ e, Fallible.Spec (fun _ _ => True) bad good (refused conn q e :: h) (f (.error e)))
    (next : ∀ a, Fallible.Spec (fun _ _ => True) bad good (answered conn q a :: h) (f (.ok a))) :
    Fallible.Spec (fun _ _ => True) bad good h
      ((liftM (query conn q) : Handler (Except DbError q.Answer)) >>= f) :=
  Fallible.spec_bind.mpr (spec_query.mpr ⟨trivial, next, failed⟩)

theorem spec_newUuid {good : History Action.Answer → String → Prop} :
    Fallible.Spec may bad good h (liftM newUuid : Handler String) ↔
      may h (.effect .uuid) ∧ ∀ u, good (drewUuid u :: h) u.toString := Iff.rfl

theorem spec_generateNonce {good : History Action.Answer → BytesN 12 → Prop} :
    Fallible.Spec may bad good h (liftM generateNonce : Handler (BytesN 12)) ↔
      may h (.effect .nonce) ∧ ∀ n, good (drewNonce n :: h) n := Iff.rfl

theorem spec_utcNow {good : History Action.Answer → NaiveDateTime → Prop} :
    Fallible.Spec may bad good h (liftM utcNow : Handler NaiveDateTime) ↔
      may h (.effect .now) ∧ ∀ t, good (readClock t :: h) t := Iff.rfl

theorem spec_stateConn {good : History Action.Answer → Conn → Prop} :
    Fallible.Spec may bad good h (liftM stateConn : Handler Conn) ↔
      may h (.file .clonePool) ∧ ∀ pool,
        may (clonedPool pool :: h) (.file (.poolGet pool)) ∧
        (∀ conn, good (gotConn pool (.ok conn) :: clonedPool pool :: h) conn) ∧
        ∀ m, bad (gotConn pool (.error m) :: clonedPool pool :: h) ⟨.pool m, .backend⟩ := by
  refine and_congr_right fun _ => forall_congr' fun pool => and_congr_right fun _ =>
    ⟨fun met => ⟨fun a => met (.ok a), fun e => met (.error e)⟩, ?_⟩
  rintro ⟨ok, error⟩ (e | a)
  · exact error e
  · exact ok a

theorem spec_transaction {conn : Conn} {t : SignUpTransaction}
    {good : History Action.Answer → String × String → Prop} :
    Fallible.Spec may bad good h (transaction conn t) ↔
      may h (.transaction conn t) ∧ (∀ done, good (committed conn t done :: h) done) ∧
        ∀ e, bad (rolledBack conn t e :: h) e := by
  rw [transaction, Fallible.spec_bind]
  refine and_congr_right fun _ => ⟨fun met => ⟨fun a => met (.ok a), fun e => met (.error e)⟩, ?_⟩
  rintro ⟨ok, error⟩ (e | a)
  · exact error e
  · exact ok a

theorem spec_identityUpdate {conn : Conn} {uuid : String} {changes : UpdateIdentity}
    {good : History Action.Answer → Identity → Prop} :
    Fallible.Spec may bad good h (liftM (Identity.update conn uuid changes) : Handler Identity) ↔
      may h (.effect .now) ∧ ∀ now,
        may (readClock now :: h) (.effect (.sql conn (.identityUpdate uuid changes now))) ∧
        (∀ row, good (answered conn (.identityUpdate uuid changes now) row :: readClock now :: h) row) ∧
        ∀ e, bad (refused conn (.identityUpdate uuid changes now) e :: readClock now :: h)
          ⟨.database e, .backend⟩ := by
  rw [Identity.update, lift_bind, Fallible.spec_bind, spec_utcNow]
  exact and_congr_right fun _ => forall_congr' fun _ => spec_sql

theorem spec_userUpdate {conn : Conn} {uuid : String} {changes : UpdateUser}
    {good : History Action.Answer → User → Prop} :
    Fallible.Spec may bad good h (liftM (User.update conn uuid changes) : Handler User) ↔
      may h (.effect .now) ∧ ∀ now,
        may (readClock now :: h) (.effect (.sql conn (.userUpdate uuid changes now))) ∧
        (∀ row, good (answered conn (.userUpdate uuid changes now) row :: readClock now :: h) row) ∧
        ∀ e, bad (refused conn (.userUpdate uuid changes now) e :: readClock now :: h)
          ⟨.database e, .backend⟩ := by
  rw [User.update, lift_bind, Fallible.spec_bind, spec_utcNow]
  exact and_congr_right fun _ => forall_congr' fun _ => spec_sql

theorem spec_passwordUpdate {conn : Conn} {uuid : String} {changes : UpdatePassword}
    {good : History Action.Answer → Password → Prop} :
    Fallible.Spec may bad good h (liftM (Password.update conn uuid changes) : Handler Password) ↔
      may h (.effect .now) ∧ ∀ now,
        may (readClock now :: h) (.effect (.sql conn (.passwordUpdate uuid changes now))) ∧
        (∀ row, good (answered conn (.passwordUpdate uuid changes now) row :: readClock now :: h) row) ∧
        ∀ e, bad (refused conn (.passwordUpdate uuid changes now) e :: readClock now :: h)
          ⟨.database e, .backend⟩ := by
  rw [Password.update, lift_bind, Fallible.spec_bind, spec_utcNow]
  exact and_congr_right fun _ => forall_congr' fun _ => spec_sql

variable [Crypto]

theorem spec_encrypt {data : Bytes} {key : BytesN 32} {good : History Action.Answer → Bytes → Prop} :
    Fallible.Spec may bad good h (liftM (encryptWithSharedKey data key) : Handler Bytes) ↔
      may h (.effect .nonce) ∧ ∀ nonce,
        (∀ blob, sealWith nonce data key = .ok blob → good (drewNonce nonce :: h) blob) ∧
        ∀ e, sealWith nonce data key = .error e → bad (drewNonce nonce :: h) ⟨e, .sealing⟩ := by
  rw [encryptWithSharedKey, lift_bind, Fallible.spec_bind, spec_generateNonce]
  simp only [lift_attempt, spec_attempt]

theorem spec_generateIdentityKeys {good : History Action.Answer → IdentityKeys → Prop} :
    Fallible.Spec may bad good h (liftM generateIdentityKeys : Handler IdentityKeys) ↔
      may h (.effect .random) ∧ ∀ r, good (drewRandom r :: h) (identityKeys r) := Iff.rfl

end

end PasswordManager
