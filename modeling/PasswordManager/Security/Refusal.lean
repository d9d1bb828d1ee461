import PasswordManager.Security.AtRest

/-!
# Refused requests

A request that is answered with an error has changed nothing.
-/

namespace PasswordManager
open Interaction

variable [Crypto] [Archive] {config : Config} {tr : Journal} {db : Db} {rid : Nat} {req : Request}
  {pre post : Db}

/-- A request with an error has issued no statement that changed a row. -/
theorem blame_unwritten (opens : OpensSealed) (seals : Seals) (run : Run config tr db)
    {f : Failure} (blame : Blame config (own rid tr) f) : Unwritten (own rid tr) := by
  cases blame with
  | refused _ unwritten => exact unwritten
  | stored _ corrupt => exact absurd corrupt (run_not_corrupt opens run)
  | sealing _ failed => exact absurd seals failed
  | rolledBack _ unwritten => exact unwritten

/-- A refused request changes nothing: none of its actions has changed the database, so none of
its writes remains. In particular a sign-up that ends with an error leaves no user behind, and a
create request whose INSERT was carried out does not end with an error. -/
theorem refused_changes_nothing (opens : OpensSealed) (seals : Seals) {c : ServerState}
    (reached : (server config).Reachable c) {f : Failure} (refused : Ended c rid req (.error f)) :
    (∀ req' e pre post, .act rid req' e pre post ∈ c.trace → post = pre) ∧
      (∀ req' conn t done pre post,
        .act rid req' (committed conn t done) pre post ∉ c.trace) ∧
      ∀ req' conn new row pre post,
        .act rid req' (answered conn (.passwordCreate new) row) pre post ∉ c.trace := by
  have run := reachable_run reached
  have unwritten := blame_unwritten opens seals run (ended_settled reached refused)
  refine ⟨fun req' e pre post member => ?_, fun req' conn t done pre post member => ?_,
    fun req' conn new row pre post member => ?_⟩
  · obtain ⟨newer, older, -, earlier⟩ := run.upTo member
    exact happened_unwritten (unwritten e (mem_own.mpr ⟨_, _, _, member⟩)) earlier.newest.2.2.1
  · cases unwritten _ (mem_own.mpr ⟨_, _, _, member⟩)
  · cases unwritten _ (mem_own.mpr ⟨_, _, _, member⟩)

/-! ## A device that is deleted while it signs up -/

/-- An administrator deletes the device's row before the transaction of its sign-up. -/
def strandedMoves : List (Move Request Choice) :=
  alone 0 8 greetRequest ++ (alone 1 6 signUpRequest).take 5 ++
    alone 2 6 (.adminDelete adminHeaders localhost (numbered 64)) ++ (alone 1 6 signUpRequest).drop 5

def strandedRun : ServerState :=
  letI := plainCrypto
  letI := plainArchive
  (server plainConfig).play strandedMoves { world := Db.empty }

/-- The transaction has inserted a user, and then finds no device to link to it. -/
def strands : Event Action.Answer Request Result Db → Bool
  | .act rid _ ⟨.transaction _ _, (.error f : Except Failure (String × String))⟩ _ _ =>
    rid == 1 && f.error == .database .notFound
  | _ => false

omit [Crypto] [Archive] in
theorem strandedRun_checked :
    strandedRun.trace.any (replies 1 signUpRequest fun
      | .error _ => true
      | _ => false) ∧ strandedRun.trace.any strands := by
  decide +kernel

omit [Crypto] [Archive] in
/-- The sign-up fails within its transaction. -/
theorem refused_changes_nothing_stranded :
    letI := plainCrypto
    letI := plainArchive
    strandedRun.trace.any strands ∧
    (∀ req' e pre post, .act 1 req' e pre post ∈ strandedRun.trace → post = pre) ∧
      (∀ req' conn t done pre post,
        .act 1 req' (committed conn t done) pre post ∉ strandedRun.trace) ∧
      ∀ req' conn new row pre post,
        .act 1 req' (answered conn (.passwordCreate new) row) pre post ∉ strandedRun.trace := by
  let _ := plainCrypto
  let _ := plainArchive
  have reached : (server plainConfig).Reachable strandedRun := Machine.play_reachable strandedMoves _
  obtain ⟨replied, stranded⟩ := strandedRun_checked
  obtain ⟨res, ended, refused⟩ := ended_of_replies replied
  cases res with
  | ok reply => cases refused
  | error f => exact ⟨stranded, refused_changes_nothing plain_opens plain_seals reached ended⟩

end PasswordManager
