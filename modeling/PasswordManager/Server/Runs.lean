import PasswordManager.Server.Change

/-!
# Runs of the server

The traces of reachable states, what is known about each of their events, and the step from
one change to a whole run.
-/

namespace PasswordManager
open Interaction

variable [Crypto] [Archive] {config : Config}

abbrev Journal := Trace Action.Answer Request Result Db

abbrev ServerState := RunState Action.Answer Request Result Db

/-- The journal of a run that has led to the database. -/
abbrev Run (config : Config) : Journal → Db → Prop :=
  (server config).Traced (Justified config) (Settled config)

theorem reachable_run {c : ServerState} (reached : (server config).Reachable c) :
    Run config c.trace c.world :=
  (Machine.reachable_tracked (M := (server config).machine) (serve_spec config) reached).traced

section
variable {tr older newer : Journal} {db before : Db} {rid : Nat} {req : Request}
  {e : Exchange Action.Answer} {pre post : Db}

theorem Run.newest (run : Run config (.act rid req e pre post :: tr) db) :
    Run config tr pre ∧ Justified config req (own rid tr) e.action ∧ Happened e pre post ∧
      post = db := by
  obtain ⟨run, -, justified, same, happened⟩ := run.act_inv
  exact ⟨run, justified, happened, same⟩

theorem Run.change (run : Run config (.act rid req e pre post :: tr) db) :
    Change config req (own rid tr) e pre post := by
  obtain ⟨-, justified, happened, -⟩ := run.newest
  exact change_of_happened justified happened

theorem Run.suffix (run : Run config (newer ++ .act rid req e pre post :: older) db) :
    Run config (.act rid req e pre post :: older) post := by
  obtain ⟨v, run⟩ := Machine.Traced.suffix run
  obtain rfl := Run.newest run |>.2.2.2
  exact run

/-- The part of a run up to and including one of its actions. -/
theorem Run.upTo (run : Run config tr db) (member : .act rid req e pre post ∈ tr) :
    ∃ newer older, tr = newer ++ .act rid req e pre post :: older ∧
      Run config (.act rid req e pre post :: older) post := by
  obtain ⟨newer, older, rfl⟩ := List.append_of_mem member
  exact ⟨newer, older, rfl, Run.suffix run⟩

theorem Run.performed (run : Run config tr db) (member : e ∈ own rid tr) :
    ∃ req pre post newer older, tr = newer ++ .act rid req e pre post :: older ∧
      Run config (.act rid req e pre post :: older) post := by
  obtain ⟨req, pre, post, present⟩ := mem_own.mp member
  exact ⟨req, pre, post, run.upTo present⟩

theorem Run.begun (run : Run config (.act rid req e pre post :: tr) db) : .start rid req ∈ tr :=
  run.act_inv.2.1.1

/-- What a query was answered from. -/
theorem Run.looked {conn : Conn} {q : Query} {a : q.Answer} (read : q.isWrite = false)
    (run : Run config (.act rid req (answered conn q a) pre post :: tr) db) :
    Run config tr pre ∧ ∃ moment, pre.exec moment q = (.ok a, pre) := by
  obtain ⟨earlier, -, happened, -⟩ := run.newest
  obtain ⟨moment, done⟩ := happened_sql happened
  have kept := pre.exec_read moment read
  rw [done] at kept
  exact ⟨earlier, moment, by rw [done, show post = pre from kept]⟩

/-- What a query in a request's history was answered from. -/
theorem Run.read (run : Run config tr db) {conn : Conn} {q : Query} {a : q.Answer}
    (read : q.isWrite = false) (member : answered conn q a ∈ own rid tr) :
    ∃ newer older before moment, tr = newer ++ older ∧ Run config older before ∧
      before.exec moment q = (.ok a, before) := by
  obtain ⟨req, pre, post, newer, older, rfl, done⟩ := run.performed member
  obtain ⟨earlier, moment, same⟩ := Run.looked read done
  exact ⟨newer ++ [.act rid req (answered conn q a) pre post], older, pre, moment, by simp, earlier, same⟩

theorem Run.accepted (run : Run config tr db) {headers : HeaderMap} {ip userId : String}
    {identity : Identity} (accepted : Accepted (Interaction.own rid tr) headers ip identity userId) :
    ∃ req conn token before, headers.getStr "device-token" = some token ∧
      .act rid req (answered conn (.identityFindByDeviceToken (hashToken token)) (some identity))
        before before ∈ tr ∧
      identity ∈ before.identities ∧ identity.deviceToken = some (hashToken token) := by
  obtain ⟨token, conn, header, member⟩ := accepted.device
  obtain ⟨req, pre, post, newer, older, rfl, earlier⟩ := run.performed member
  obtain ⟨-, -, happened, -⟩ := earlier.newest
  obtain rfl : post = pre := happened_unwritten rfl happened
  obtain ⟨moment, done⟩ := happened_sql happened
  obtain ⟨present, same⟩ := Table.find_some (Except.ok.inj (Prod.mk.inj done).1)
  exact ⟨req, conn, token, post, header, by simp, present, same⟩

theorem Run.write_once (run : Run config tr db) {a b : Exchange Action.Answer}
    (one : a ∈ Interaction.own rid tr) (two : b ∈ Interaction.own rid tr)
    (first : a.action.isWrite = true) (second : b.action.isWrite = true) : a = b :=
  run.once (p := fun x => x.isWrite = true)
    (fun _ _ _ justified writes e member => Bool.eq_false_iff.mp ((justified.write writes).1 e member))
    one two first second

theorem Run.identify_once (run : Run config tr db) {a b : Exchange Action.Answer}
    (one : a ∈ Interaction.own rid tr) (two : b ∈ Interaction.own rid tr)
    (first : a.action.identifies = true) (second : b.action.identifies = true) : a = b :=
  run.once (p := fun x => x.identifies = true)
    (fun _ _ _ justified writes e member => Bool.eq_false_iff.mp (justified.once writes e member))
    one two first second

theorem Run.world_unique (run : Run config tr db) (other : Run config tr before) : db = before := by
  induction run generalizing before with
  | nil =>
    cases other with
    | nil => rfl
    | background _ _ moved => cases moved
  | start _ _ _ _ ih => exact ih other.start_inv.1
  | act => exact (Run.newest other).2.2.2
  | reply _ _ _ _ _ _ ih => exact ih other.reply_inv.1
  | background _ _ moved => cases moved

/-- Induction over a run, with the change that each action made. -/
theorem Run.induction {motive : ∀ tr db, Run config tr db → Prop}
    (nil : motive [] Db.empty .nil)
    (start : ∀ tr db rid req (before : Run config tr db) (run : Run config (.start rid req :: tr) db),
      motive tr db before → motive (.start rid req :: tr) db run)
    (act : ∀ tr rid req e pre post (before : Run config tr pre)
      (run : Run config (.act rid req e pre post :: tr) post),
      Change config req (Interaction.own rid tr) e pre post → motive tr pre before →
      motive (.act rid req e pre post :: tr) post run)
    (reply : ∀ tr db rid req res (before : Run config tr db)
      (run : Run config (.reply rid req res :: tr) db),
      motive tr db before → motive (.reply rid req res :: tr) db run)
    {tr : Journal} {db : Db} (run : Run config tr db) : motive tr db run := by
  induction run with
  | nil => exact nil
  | start rid req before unused ih => exact start _ _ rid req before (.start rid req before unused) ih
  | act rid req x choice before live justified ready ih =>
    have whole : Run config _ _ := .act rid req x choice before live justified ready
    exact act _ _ _ _ _ _ before whole (Run.change whole) ih
  | reply rid req res before live met ih =>
    exact reply _ _ rid req res before (.reply rid req res before live met) ih
  | background _ _ moved => cases moved

/-- The relation leads from every earlier point of the run to its last database. -/
def Past (config : Config) (rel : Db → Db → Prop) (tr : Journal) (db : Db) : Prop :=
  ∀ newer older before, tr = newer ++ older → Run config older before → rel before db

/-- What one change keeps, given that it was kept so far, is kept from any point of a run to its
end. -/
theorem Run.past (rel : Db → Db → Prop) (refl : ∀ db, rel db db)
    (trans : ∀ {a b c}, rel a b → rel b c → rel a c)
    (step : ∀ {tr rid req e pre post}, Run config tr pre → Past config rel tr pre →
      Change config req (own rid tr) e pre post → rel pre post)
    (run : Run config tr db) : Past config rel tr db := by
  have here : ∀ {tr db older before}, Run config tr db → tr = older → Run config older before →
      rel before db := by
    rintro tr db _ before run rfl start
    rw [run.world_unique start]
    exact refl before
  induction run using Run.induction with
  | nil =>
    intro newer older before split start
    exact here .nil (List.append_eq_nil_iff.mp split.symm).2.symm start
  | start tr db rid req earlier run ih =>
    intro newer older before split start
    cases newer with
    | nil => exact here run split start
    | cons e newer => exact ih _ _ _ (List.cons.inj split).2 start
  | act tr rid req e pre post earlier run change ih =>
    intro newer older before split start
    cases newer with
    | nil => exact here run split start
    | cons e newer => exact trans (ih _ _ _ (List.cons.inj split).2 start) (step earlier ih change)
  | reply tr db rid req res earlier run ih =>
    intro newer older before split start
    cases newer with
    | nil => exact here run split start
    | cons e newer => exact ih _ _ _ (List.cons.inj split).2 start

theorem Run.invariant {inv : Db → Prop} (start : inv Db.empty)
    (step : ∀ {req h e pre post}, Change config req h e pre post → inv pre → inv post)
    (run : Run config tr db) : inv db := by
  exact run.past (fun a b => inv a → inv b) (fun _ => id)
    (fun first second => second ∘ first) (fun _ _ => step) tr [] _ (List.append_nil tr).symm .nil start

end

/-! ## Results -/

/-- The request has been answered or its handler has stopped with the result. -/
def Ended (c : ServerState) (rid : Nat) (req : Request) (r : Result) : Prop :=
  .reply rid req r ∈ c.trace ∨ c.procs rid = some (req, .done r)

/-- A result meets whatever specification all handlers meet. -/
theorem ended_meets (may : Request → History Action.Answer → Action → Prop)
    {post : Request → History Action.Answer → Result → Prop}
    (specs : ∀ req, Prog.Spec (may req) (post req) [] (serve config req).run) {c : ServerState}
    (reached : (server config).Reachable c) {rid : Nat} {req : Request} {r : Result}
    (ended : Ended c rid req r) : post req (own rid c.trace) r := by
  have tracked := Machine.reachable_tracked (M := (server config).machine) specs reached
  rcases ended with member | running
  · exact (tracked.traced.replied member).2
  · exact (tracked.running _ _ _ running).2

theorem ended_settled {c : ServerState} (reached : (server config).Reachable c) {rid : Nat}
    {req : Request} {r : Result} (ended : Ended c rid req r) :
    Settled config req (own rid c.trace) r :=
  ended_meets (Justified config) (serve_spec config) reached ended

theorem ended_started {c : ServerState} (reached : (server config).Reachable c) {rid : Nat}
    {req : Request} {r : Result} (ended : Ended c rid req r) : .start rid req ∈ c.trace := by
  have tracked := Machine.reachable_tracked (M := (server config).machine) (serve_spec config) reached
  rcases ended with member | running
  · exact (tracked.traced.replied member).1
  · exact (tracked.running _ _ _ running).1.1

theorem ended_performed {c : ServerState} (reached : (server config).Reachable c) {rid : Nat}
    {req : Request} {r : Result} (ended : Ended c rid req r) {e : Exchange Action.Answer}
    (member : e ∈ own rid c.trace) :
    ∃ pre post newer older, c.trace = newer ++ .act rid req e pre post :: older ∧
      Run config (.act rid req e pre post :: older) post := by
  have run := reachable_run reached
  obtain ⟨req', pre, post, present⟩ := mem_own.mp member
  obtain rfl := run.start_unique (run.started present) (ended_started reached ended)
  obtain ⟨newer, older, split, earlier⟩ := run.upTo present
  exact ⟨pre, post, newer, older, split, earlier⟩

end PasswordManager
