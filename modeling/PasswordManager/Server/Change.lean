import PasswordManager.Routes.Exec
import PasswordManager.Server.Specs

/-!
# What one action does to the database

`Change` lists the effects that an action of a handler can have, each with the `Write` that
justifies it. Everything that later modules know about single steps comes from it.
-/

namespace PasswordManager
open Interaction

/-! ## Statements -/

section
variable {moment : Moment} {conn : Conn} {pre post : Db}

theorem exec_userCreate {new : NewUser} {row : User}
    (h : pre.exec moment (.userCreate new) = (.ok row, post)) :
    row = new.row moment.clock ∧ post.toTables = { pre.toTables with users := pre.users ++ [row] } := by
  obtain ⟨rfl, after⟩ := Db.commit_ok h
  exact ⟨rfl, after⟩

theorem exec_userUpdate {uuid : String} {changes : UpdateUser} {now : NaiveDateTime} {row : User}
    (h : pre.exec moment (.userUpdate uuid changes now) = (.ok row, post)) :
    ∃ old, Table.find (·.uuid) pre.users uuid = some old ∧ row = changes.apply now old ∧
      post.toTables = { pre.toTables with
        users := Table.update (·.uuid) pre.users uuid (changes.apply now) } := by
  simp only [Db.exec] at h
  split at h
  · cases h
  · rename_i old found
    exact ⟨old, found, Db.commit_ok h⟩

theorem exec_identityCreate {new : NewIdentity} {row : Identity}
    (h : pre.exec moment (.identityCreate new) = (.ok row, post)) :
    row = new.row moment.clock ∧
      post.toTables = { pre.toTables with identities := pre.identities ++ [row] } := by
  obtain ⟨rfl, after⟩ := Db.commit_ok h
  exact ⟨rfl, after⟩

theorem exec_identityUpdate {uuid : String} {changes : UpdateIdentity} {now : NaiveDateTime}
    {row : Identity} (h : pre.exec moment (.identityUpdate uuid changes now) = (.ok row, post)) :
    ∃ old, Table.find (·.uuid) pre.identities uuid = some old ∧ row = changes.apply now old ∧
      post.toTables = { pre.toTables with
        identities := Table.update (·.uuid) pre.identities uuid (changes.apply now) } := by
  simp only [Db.exec] at h
  split at h
  · cases h
  · rename_i old found
    exact ⟨old, found, Db.commit_ok h⟩

theorem exec_identityDelete {uuid : String} {count : Nat}
    (h : pre.exec moment (.identityDelete uuid) = (.ok count, post)) :
    post.toTables = { pre.toTables with
      identities := pre.identities.filter fun d => d.uuid ≠ uuid } :=
  (Db.commit_ok h).2

theorem exec_groupCreate {new : NewGroup} {row : Group}
    (h : pre.exec moment (.groupCreate new) = (.ok row, post)) :
    row = new.row moment.clock ∧ post.toTables = { pre.toTables with groups := pre.groups ++ [row] } := by
  obtain ⟨rfl, after⟩ := Db.commit_ok h
  exact ⟨rfl, after⟩

/-- The rows come in some order. -/
theorem exec_passwordFindByGroups {ids : List String} {rows : List Password}
    (h : pre.exec moment (.passwordFindByGroups ids) = (.ok rows, post)) :
    ids.length ≤ SQLITE_MAX_VARIABLE_NUMBER ∧ post = pre ∧
      rows.Perm (pre.passwords.filter fun p => p.groupId ∈ ids) := by
  simp only [Db.exec] at h
  split at h
  · cases h
    exact ⟨‹_›, rfl, moment.order.perm _⟩
  · cases h

theorem exec_passwordCreate {new : NewPassword} {row : Password}
    (h : pre.exec moment (.passwordCreate new) = (.ok row, post)) :
    row = new.row moment.clock ∧
      post.toTables = { pre.toTables with passwords := pre.passwords ++ [row] } := by
  obtain ⟨rfl, after⟩ := Db.commit_ok h
  exact ⟨rfl, after⟩

theorem exec_passwordUpdate {uuid : String} {changes : UpdatePassword} {now : NaiveDateTime}
    {row : Password} (h : pre.exec moment (.passwordUpdate uuid changes now) = (.ok row, post)) :
    ∃ old, Table.find (·.uuid) pre.passwords uuid = some old ∧ row = changes.apply now old ∧
      post.toTables = { pre.toTables with
        passwords := Table.update (·.uuid) pre.passwords uuid (changes.apply now) } := by
  simp only [Db.exec] at h
  split at h
  · cases h
  · rename_i old found
    exact ⟨old, found, Db.commit_ok h⟩

end

/-! ## The sign-up transaction -/

section
variable {conn : Conn} {q : Query} {w rest : (Nat → Chance) × Db}

theorem answer_ok {c : Chance} {db after : Db} {a : q.Answer}
    (h : (Effect.sql conn q).answer c db = (.ok a, after)) : db.exec c.toMoment q = (.ok a, after) := by
  simp only [Effect.answer] at h
  split at h
  · cases h
  · exact h

theorem answer_error {c : Chance} {db after : Db} {e : DbError}
    (h : (Effect.sql conn q).answer c db = (.error e, after)) : after = db := by
  simp only [Effect.answer] at h
  split at h
  · cases h
    rfl
  · exact Db.exec_error h

theorem exec_sql : Fallible.exec Effect.answer (sql conn q) w =
    match (Effect.sql conn q).answer (w.1 0) w.2 with
    | (.ok a, after) => (.ok a, fun n => w.1 (n + 1), after)
    | (.error e, after) => (.error ⟨.database e, .backend⟩, fun n => w.1 (n + 1), after) := by
  unfold sql query
  rw [Fallible.exec_bind, show Fallible.exec Effect.answer (effect (.sql conn q)) w =
    (.ok ((Effect.sql conn q).answer (w.1 0) w.2).1, fun n => w.1 (n + 1),
      ((Effect.sql conn q).answer (w.1 0) w.2).2) from rfl]
  rcases (Effect.sql conn q).answer (w.1 0) w.2 with ⟨e | a, after⟩ <;> rfl

theorem sql_ok {a : q.Answer} (h : Fallible.exec Effect.answer (sql conn q) w = (.ok a, rest)) :
    w.2.exec (w.1 0).toMoment q = (.ok a, rest.2) := by
  rw [exec_sql] at h
  split at h
  · rename_i b after done
    cases h
    exact answer_ok done
  · cases h

theorem newUuid_ok {uuid : String}
    (h : Fallible.exec Effect.answer newUuid w = (.ok uuid, rest)) :
    uuid = (w.1 0).uuid.toString ∧ rest.2 = w.2 := by
  cases h
  exact ⟨rfl, rfl⟩

theorem plain_exec {α : Type} {p : Domain α} {e : Failure} (plain : Plain p)
    (failed : Fallible.exec Effect.answer p w = (.error e, rest)) :
    e.origin = .request ∨ e.origin = .backend := by
  obtain ⟨h, met⟩ := Prog.run_spec Effect.answer (plain []) w
  unfold Fallible.exec at failed
  rw [failed] at met
  exact met

theorem plain_newUuid : Plain newUuid := plain_bind plain_perform fun _ => plain_pure

theorem plain_sql : Plain (sql conn q) := by
  refine plain_bind plain_perform fun r h => ?_
  cases r with
  | ok a => trivial
  | error e => exact .inr rfl

variable [Crypto] {t : SignUpTransaction} {chance : Nat → Chance} {pre post : Db}

theorem linkDevice_ok {device user token : String}
    (h : Fallible.exec Effect.answer (linkDevice conn device user) w = (.ok token, rest)) :
    ∃ moment now row, w.2.exec moment (.identityUpdate device (linkChanges user token) now) =
      (.ok row, rest.2) := by
  unfold linkDevice at h
  obtain ⟨_, drawn, drew, h⟩ := Fallible.bind_ok h
  obtain ⟨rfl, same⟩ := newUuid_ok drew
  obtain ⟨row, updated, update, h⟩ := Fallible.bind_ok h
  cases h
  unfold Identity.update at update
  obtain ⟨now, read, clock, update⟩ := Fallible.bind_ok update
  cases clock
  exact ⟨_, _, row, same ▸ sql_ok update⟩

theorem transaction_ok {user token : String}
    (h : t.run conn chance pre = (.ok (user, token), post)) :
    ∃ clock now old, Table.find (·.name) pre.users t.name = none ∧
      Table.find (·.uuid) pre.identities t.identityUuid = some old ∧
      post.toTables = { pre.toTables with
        users := pre.users ++ [(⟨user, t.name, t.ehloSecret, false, "{}"⟩ : NewUser).row clock]
        identities := Table.update (·.uuid) pre.identities t.identityUuid
          ((linkChanges user token).apply now) } := by
  unfold SignUpTransaction.run at h
  split at h
  · rename_i done after committed body
    cases h
    unfold SignUpTransaction.body at body
    obtain ⟨found, middle, find, unnamed⟩ := Fallible.bind_ok body
    obtain ⟨v, middle', vacant, unclaimed⟩ := Fallible.bind_ok unnamed
    obtain ⟨vacant, kept⟩ := refuseIf_ok vacant
    obtain ⟨_, drawn, drew, creating⟩ := Fallible.bind_ok unclaimed
    obtain ⟨rfl, same⟩ := newUuid_ok drew
    obtain ⟨row, created, create, linking⟩ := Fallible.bind_ok creating
    obtain ⟨token', linked, link, returned⟩ := Fallible.bind_ok linking
    cases returned
    have find := sql_ok find
    obtain ⟨rowEq, create⟩ := exec_userCreate (sql_ok create)
    obtain ⟨clock, now, updated, link⟩ := linkDevice_ok link
    obtain ⟨old, present, -, link⟩ := exec_identityUpdate link
    have unchanged : middle.2 = pre := (Prod.mk.inj find).2.symm
    rw [same, kept, unchanged] at create
    have identities : created.2.identities = pre.identities := by rw [create]
    rw [identities] at present
    refine ⟨(drawn.1 0).clock, now, old, ?_, present, ?_⟩
    · have lookup : found = Table.find (·.name) pre.users t.name :=
        (Except.ok.inj (Prod.mk.inj find).1).symm
      rw [← lookup]
      simpa using vacant
    · rw [link, create, rowEq]
      rfl
  · cases h
  · cases h

theorem linkDevice_token {device user token : String}
    (h : Fallible.exec Effect.answer (linkDevice conn device user) w = (.ok token, rest)) :
    ∃ u : Uuid, token = u.toString := by
  unfold linkDevice at h
  obtain ⟨_, drawn, drew, linking⟩ := Fallible.bind_ok h
  obtain ⟨row, updated, update, returned⟩ := Fallible.bind_ok linking
  cases returned
  exact ⟨_, (newUuid_ok drew).1⟩

theorem transaction_token {user token : String}
    (h : t.run conn chance pre = (.ok (user, token), post)) : ∃ u : Uuid, token = u.toString := by
  unfold SignUpTransaction.run at h
  split at h
  · rename_i done after committed body
    cases h
    unfold SignUpTransaction.body at body
    obtain ⟨found, middle, find, unnamed⟩ := Fallible.bind_ok body
    obtain ⟨v, middle', vacant, unclaimed⟩ := Fallible.bind_ok unnamed
    obtain ⟨_, drawn, drew, creating⟩ := Fallible.bind_ok unclaimed
    obtain ⟨row, created, create, linking⟩ := Fallible.bind_ok creating
    obtain ⟨token', linked, link, returned⟩ := Fallible.bind_ok linking
    cases returned
    exact linkDevice_token link
  · cases h
  · cases h

theorem plain_body : Plain (t.body conn) := by
  unfold SignUpTransaction.body
  refine plain_bind plain_sql fun found => ?_
  refine plain_bind plain_refuseIf fun _ => ?_
  refine plain_bind plain_newUuid fun uuid => ?_
  refine plain_bind plain_sql fun user => ?_
  refine plain_bind ?_ fun token => plain_pure
  refine plain_bind plain_newUuid fun token => ?_
  exact plain_bind (plain_bind plain_perform fun now => plain_sql) fun row => plain_pure

/-- A transaction that fails is rolled back, and it neither reads a stored secret nor seals one. -/
theorem transaction_error {e : Failure} (h : t.run conn chance pre = (.error e, post)) :
    post = pre ∧ (e.origin = .request ∨ e.origin = .backend) := by
  unfold SignUpTransaction.run at h
  split at h
  · cases h
  · rename_i failed rest committed body
    cases h
    exact ⟨rfl, plain_exec plain_body body⟩
  · cases h
    exact ⟨rfl, .inr rfl⟩

end

/-! ## Actions -/

variable [Crypto]

/-- The exchange happened between the two databases. -/
def Happened (e : Exchange Action.Answer) (pre post : Db) : Prop :=
  ∃ choice, Action.answer choice pre e.action = (e.answer, post)

/-- The effect of one action, with the `Write` behind it. -/
inductive Change (config : Config) (req : Request) (h : History Action.Answer) :
    Exchange Action.Answer → Db → Db → Prop where
  | none {e db} (unchanged : wrote e = false) : Change config req h e db db
  | signUp {conn t user token clock now old pre post}
      (write : Write config req h (.transaction conn t))
      (vacant : Table.find (·.name) pre.users t.name = Option.none)
      (found : Table.find (·.uuid) pre.identities t.identityUuid = some old)
      (after : post.toTables = { pre.toTables with
        users := pre.users ++ [(⟨user, t.name, t.ehloSecret, false, "{}"⟩ : NewUser).row clock]
        identities := Table.update (·.uuid) pre.identities t.identityUuid
          ((linkChanges user token).apply now) }) :
      Change config req h (committed conn t (user, token)) pre post
  | userUpdate {conn uuid changes now old pre post}
      (write : Write config req h (.effect (.sql conn (.userUpdate uuid changes now))))
      (found : Table.find (·.uuid) pre.users uuid = some old)
      (after : post.toTables = { pre.toTables with
        users := Table.update (·.uuid) pre.users uuid (changes.apply now) }) :
      Change config req h (answered conn (.userUpdate uuid changes now) (changes.apply now old))
        pre post
  | identityCreate {conn new clock pre post}
      (write : Write config req h (.effect (.sql conn (.identityCreate new))))
      (after : post.toTables = { pre.toTables with
        identities := pre.identities ++ [new.row clock] }) :
      Change config req h (answered conn (.identityCreate new) (new.row clock)) pre post
  | identityUpdate {conn uuid changes now old pre post}
      (write : Write config req h (.effect (.sql conn (.identityUpdate uuid changes now))))
      (found : Table.find (·.uuid) pre.identities uuid = some old)
      (after : post.toTables = { pre.toTables with
        identities := Table.update (·.uuid) pre.identities uuid (changes.apply now) }) :
      Change config req h
        (answered conn (.identityUpdate uuid changes now) (changes.apply now old)) pre post
  | identityDelete {conn uuid count pre post}
      (write : Write config req h (.effect (.sql conn (.identityDelete uuid))))
      (after : post.toTables = { pre.toTables with
        identities := pre.identities.filter fun d => d.uuid ≠ uuid }) :
      Change config req h (answered conn (.identityDelete uuid) count) pre post
  | groupCreate {conn new clock pre post}
      (write : Write config req h (.effect (.sql conn (.groupCreate new))))
      (after : post.toTables = { pre.toTables with groups := pre.groups ++ [new.row clock] }) :
      Change config req h (answered conn (.groupCreate new) (new.row clock)) pre post
  | passwordCreate {conn new clock pre post}
      (write : Write config req h (.effect (.sql conn (.passwordCreate new))))
      (after : post.toTables = { pre.toTables with
        passwords := pre.passwords ++ [new.row clock] }) :
      Change config req h (answered conn (.passwordCreate new) (new.row clock)) pre post
  | passwordUpdate {conn uuid changes now old pre post}
      (write : Write config req h (.effect (.sql conn (.passwordUpdate uuid changes now))))
      (found : Table.find (·.uuid) pre.passwords uuid = some old)
      (after : post.toTables = { pre.toTables with
        passwords := Table.update (·.uuid) pre.passwords uuid (changes.apply now) }) :
      Change config req h
        (answered conn (.passwordUpdate uuid changes now) (changes.apply now old)) pre post

variable {config : Config} {req : Request} {h : History Action.Answer} {pre post : Db}

theorem happened_sql {conn : Conn} {q : Query} {a : q.Answer}
    (happened : Happened (answered conn q a) pre post) :
    ∃ moment, pre.exec moment q = (.ok a, post) := by
  obtain ⟨choice, happened⟩ := happened
  exact ⟨_, answer_ok happened⟩

theorem happened_unwritten {e : Exchange Action.Answer} (unchanged : wrote e = false)
    (happened : Happened e pre post) : post = pre := by
  obtain ⟨choice, happened⟩ := happened
  rcases e with ⟨x | ⟨conn, t⟩ | x, a⟩
  · rcases x with ⟨conn, q⟩ | _ | _ | _ | _
    · rcases a with e | a
      · exact answer_error happened
      · exact (pre.exec_read _ unchanged).symm.trans (congrArg Prod.snd (answer_ok happened)) |>.symm
    all_goals exact (Prod.mk.inj happened).2.symm
  · rcases a with e | done
    · exact (transaction_error happened).1
    · cases unchanged
  · exact (Prod.mk.inj happened).2.symm

theorem change_of_happened {e : Exchange Action.Answer}
    (justified : Justified config req h e.action) (happened : Happened e pre post) :
    Change config req h e pre post := by
  by_cases changed : wrote e = true
  · have write := (justified.write (wrote_isWrite changed)).2
    rcases e with ⟨x | ⟨conn, t⟩ | x, a⟩
    · rcases x with ⟨conn, q⟩ | _ | _ | _ | _
      · rcases a with e | a
        · cases changed
        · obtain ⟨moment, done⟩ := happened_sql happened
          cases q with
          | userUpdate uuid changes now =>
            obtain ⟨old, found, rfl, after⟩ := exec_userUpdate done
            exact .userUpdate write found after
          | identityCreate new =>
            obtain ⟨rfl, after⟩ := exec_identityCreate done
            exact .identityCreate write after
          | identityUpdate uuid changes now =>
            obtain ⟨old, found, rfl, after⟩ := exec_identityUpdate done
            exact .identityUpdate write found after
          | identityDelete uuid => exact .identityDelete write (exec_identityDelete done)
          | groupCreate new =>
            obtain ⟨rfl, after⟩ := exec_groupCreate done
            exact .groupCreate write after
          | passwordCreate new =>
            obtain ⟨rfl, after⟩ := exec_passwordCreate done
            exact .passwordCreate write after
          | passwordUpdate uuid changes now =>
            obtain ⟨old, found, rfl, after⟩ := exec_passwordUpdate done
            exact .passwordUpdate write found after
          | userCreate new => cases write
          | _ => cases changed
      all_goals cases changed
    · rcases a with e | ⟨user, token⟩
      · cases changed
      · obtain ⟨choice, done⟩ := happened
        obtain ⟨clock, now, old, vacant, found, after⟩ := transaction_ok done
        exact .signUp write vacant found after
    · cases changed
  · have unchanged := Bool.eq_false_iff.mpr changed
    rw [happened_unwritten unchanged happened]
    exact .none unchanged

theorem Change.users {e : Exchange Action.Answer} (change : Change config req h e pre post) :
    post.users = pre.users ∨
      (∃ conn t user token clock, e = committed conn t (user, token) ∧
        Write config req h (.transaction conn t) ∧ post.users =
          pre.users ++ [(⟨user, t.name, t.ehloSecret, false, "{}"⟩ : NewUser).row clock]) ∨
      ∃ conn uuid changes now old, e = answered conn (.userUpdate uuid changes now) (changes.apply now old) ∧
        Write config req h (.effect (.sql conn (.userUpdate uuid changes now))) ∧
        Table.find (·.uuid) pre.users uuid = some old ∧
        post.users = Table.update (·.uuid) pre.users uuid (changes.apply now) := by
  cases change with
  | none => exact .inl rfl
  | signUp write vacant found after =>
    exact .inr (.inl ⟨_, _, _, _, _, rfl, write, by rw [after]⟩)
  | userUpdate write found after =>
    exact .inr (.inr ⟨_, _, _, _, _, rfl, write, found, by rw [after]⟩)
  | identityCreate write after => exact .inl (by rw [after])
  | identityUpdate write found after => exact .inl (by rw [after])
  | identityDelete write after => exact .inl (by rw [after])
  | groupCreate write after => exact .inl (by rw [after])
  | passwordCreate write after => exact .inl (by rw [after])
  | passwordUpdate write found after => exact .inl (by rw [after])

theorem Change.identities {e : Exchange Action.Answer} (change : Change config req h e pre post) :
    post.identities = pre.identities ∨
      (∃ conn new clock, e = answered conn (.identityCreate new) (new.row clock) ∧
        Write config req h (.effect (.sql conn (.identityCreate new))) ∧
        post.identities = pre.identities ++ [new.row clock]) ∨
      (∃ conn t user token clock now old, e = committed conn t (user, token) ∧
        Write config req h (.transaction conn t) ∧
        Table.find (·.uuid) pre.identities t.identityUuid = some old ∧
        (⟨user, t.name, t.ehloSecret, false, "{}"⟩ : NewUser).row clock ∈ post.users ∧
        post.identities = Table.update (·.uuid) pre.identities t.identityUuid
          ((linkChanges user token).apply now)) ∨
      (∃ conn uuid changes now old,
        e = answered conn (.identityUpdate uuid changes now) (changes.apply now old) ∧
        Write config req h (.effect (.sql conn (.identityUpdate uuid changes now))) ∧
        Table.find (·.uuid) pre.identities uuid = some old ∧
        post.identities = Table.update (·.uuid) pre.identities uuid (changes.apply now)) ∨
      ∃ conn uuid count, e = answered conn (.identityDelete uuid) count ∧
        Write config req h (.effect (.sql conn (.identityDelete uuid))) ∧
        post.identities = pre.identities.filter fun d => d.uuid ≠ uuid := by
  cases change with
  | none => exact .inl rfl
  | @signUp conn t user token clock now old _ _ write vacant found after =>
    refine .inr (.inr (.inl ⟨conn, t, user, token, clock, now, old, rfl, write, found, ?_, ?_⟩))
    · rw [after]
      exact List.mem_append_right _ (List.mem_singleton.mpr rfl)
    · rw [after]
  | userUpdate write found after => exact .inl (by rw [after])
  | identityCreate write after => exact .inr (.inl ⟨_, _, _, rfl, write, by rw [after]⟩)
  | identityUpdate write found after =>
    exact .inr (.inr (.inr (.inl ⟨_, _, _, _, _, rfl, write, found, by rw [after]⟩)))
  | identityDelete write after =>
    exact .inr (.inr (.inr (.inr ⟨_, _, _, rfl, write, by rw [after]⟩)))
  | groupCreate write after => exact .inl (by rw [after])
  | passwordCreate write after => exact .inl (by rw [after])
  | passwordUpdate write found after => exact .inl (by rw [after])

theorem Change.passwords {e : Exchange Action.Answer} (change : Change config req h e pre post) :
    post.passwords = pre.passwords ∨
      (∃ conn new clock, e = answered conn (.passwordCreate new) (new.row clock) ∧
        Write config req h (.effect (.sql conn (.passwordCreate new))) ∧
        post.passwords = pre.passwords ++ [new.row clock]) ∨
      ∃ conn uuid changes now old,
        e = answered conn (.passwordUpdate uuid changes now) (changes.apply now old) ∧
        Write config req h (.effect (.sql conn (.passwordUpdate uuid changes now))) ∧
        Table.find (·.uuid) pre.passwords uuid = some old ∧
        post.passwords = Table.update (·.uuid) pre.passwords uuid (changes.apply now) := by
  cases change with
  | none => exact .inl rfl
  | signUp write vacant found after => exact .inl (by rw [after])
  | userUpdate write found after => exact .inl (by rw [after])
  | identityCreate write after => exact .inl (by rw [after])
  | identityUpdate write found after => exact .inl (by rw [after])
  | identityDelete write after => exact .inl (by rw [after])
  | groupCreate write after => exact .inl (by rw [after])
  | passwordCreate write after => exact .inr (.inl ⟨_, _, _, rfl, write, by rw [after]⟩)
  | passwordUpdate write found after =>
    exact .inr (.inr ⟨_, _, _, _, _, rfl, write, found, by rw [after]⟩)

theorem write_keeps_key {conn : Conn} {uuid : String} {changes : UpdateIdentity}
    {now : NaiveDateTime}
    (write : Write config req h (.effect (.sql conn (.identityUpdate uuid changes now)))) :
    changes.clientPublicKey = none := by
  cases write <;> rfl

end PasswordManager
